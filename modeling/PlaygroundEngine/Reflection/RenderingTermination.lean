import Mathlib.Data.FinEnum
import Mathlib.Data.Finite.Prod
import Mathlib.Data.Finite.Sum
import PlaygroundEngine.Library.Unfolding
import PlaygroundEngine.Reflection.Rendering

/-!
# When rendering returns

The objects a rendering visits form a graph over the object graph in memory.
Rendering returns exactly when the visits from its object meet no cycle, which a
reference member or a view that leads back to an enclosing object closes.
-/

namespace PlaygroundEngine.Reflection

open Library
set_option autoImplicit false

variable {T : Type}

/-- A call of `objectToString` or of `appendMembers`, by the object it is about. -/
inductive Visit (T : Type) where
  | object (type : T) (data : Address)
  | members (type : T) (data : Address)
  deriving DecidableEq

namespace Visit

def elements (container : ContainerDeclaration T) (memory : Memory) (obj : Address) :
    List (Visit T) :=
  (List.range (elementsToRender container memory obj)).map fun index =>
    .object container.element (container.elementAddress memory obj (UInt64.ofNat index))

/-- What a type's own rendering of an object visits. -/
def ofThunk (typeInfo : TypeInfo T) (memory : Memory) (obj : Address) : List (Visit T) :=
  match typeInfo.stringifyThunk with
  | some (.sequence container) => elements container memory obj
  | _ => []

/-- A base is walked, or renders through its facet, or holds no state. -/
def ofBase (graph : TypeGraph T) (memory : Memory) (obj : Address) (base : BaseInfo T) :
    List (Visit T) :=
  if (graph.info base.typeInfo).hasMembersToWalk then [.members base.typeInfo (obj + base.offset)]
  else if (graph.info base.typeInfo).rendersThroughFacet then
    ofThunk (graph.info base.typeInfo) memory (obj + base.offset)
  else []

/-- A member's own object or the referent of a reference member; a bit-field is copied
to the stack slot. -/
def ofMember (slot : Address) (memory : Memory) (obj : Address) (member : MemberDeclaration T) :
    List (Visit T) :=
  if obj = 0 then []
  else if member.isBitField then
    if member.copyConstruct.isSome then [.object member.type slot] else []
  else [.object member.type (member.location obj memory)]

def successors (graph : TypeGraph T) (slot : Address) (memory : Memory) :
    Visit T → List (Visit T)
  | .object type obj =>
    if (graph.info type).traits.kind = .union then []
    else if !(graph.info type).hasMembersToWalk && (graph.info type).canStringify then
      ofThunk (graph.info type) memory obj
    else [.members type obj]
  | .members type obj =>
    (graph.info type).bases.flatMap (ofBase graph memory obj) ++
      (graph.info type).members.flatMap (ofMember slot memory obj)

end Visit

def Visits (graph : TypeGraph T) (slot : Address) (memory : Memory) (source target : Visit T) :
    Prop :=
  target ∈ source.successors graph slot memory

instance finiteVisit [Finite T] : Finite (Visit T) := by
  let code : Visit T → (T × UInt64) ⊕ (T × UInt64)
    | .object type data => .inl (type, data)
    | .members type data => .inr (type, data)
  apply Finite.of_injective code
  intro a b h
  cases a <;> cases b <;> simp_all [code]

theorem foldlM_isSome {S A : Type} {step : S → A → Option S} {goesThrough : A → Prop}
    {list : List A} (hstep : ∀ a ∈ list, ∀ state, (step state a).isSome ↔ goesThrough a)
    (state : S) : (list.foldlM step state).isSome ↔ ∀ a ∈ list, goesThrough a := by
  induction list generalizing state with
  | nil => simp
  | cons a list ih =>
    rw [List.foldlM_cons, List.forall_mem_cons, ← hstep a List.mem_cons_self state]
    cases hfirst : step state a with
    | none => simp
    | some next =>
      rw [Option.isSome_some, eq_self, true_and,
        ← ih (fun b hb => hstep b (List.mem_cons_of_mem a hb)) next]
      rfl

section
variable {goes : Visit T → Prop}

theorem stringify_isSome {toString : TypedRef T → Option String}
    (htoString : ∀ type data, (toString (typedRefOf type data true true)).isSome ↔
      goes (.object type data))
    (typeInfo : TypeInfo T) (memory : Memory) (obj : Address) :
    (typeInfo.stringify toString memory obj).isSome ↔
      ∀ visit ∈ Visit.ofThunk typeInfo memory obj, goes visit := by
  unfold TypeInfo.stringify Visit.ofThunk
  split
  · simp_all
  · simp_all
  · rename_i container hthunk
    simp only [hthunk, Visit.elements, List.forall_mem_map]
    rw [stringifySequence, Option.isSome_map]
    apply foldlM_isSome
    intro index _ out
    rw [appendElement, Option.isSome_map]
    exact htoString _ _

theorem appendBase_isSome {graph : TypeGraph T} {walk : T → TypedRef T → Entries → Option Entries}
    {toString : TypedRef T → Option String} {object : TypedRef T}
    (hwalk : ∀ (base : BaseInfo T) entries,
      (walk base.typeInfo (base.upcast object) entries).isSome ↔
        goes (.members base.typeInfo (object.data + base.offset)))
    (htoString : ∀ type data, (toString (typedRefOf type data true true)).isSome ↔
      goes (.object type data))
    (memory : Memory) (entries : Entries) (base : BaseInfo T) :
    (appendBase graph walk toString memory object entries base).isSome ↔
      ∀ visit ∈ Visit.ofBase graph memory object.data base, goes visit := by
  unfold appendBase Visit.ofBase
  dsimp only
  split
  · rw [hwalk, List.forall_mem_singleton]
  · split
    · rw [Option.isSome_map]
      exact stringify_isSome htoString _ memory _
    · simp

variable [DecidableEq T]

theorem checkDeclaringInstance_eq (member : MemberDeclaration T) {object : TypedRef T}
    (htype : object.type = some member.declaringType) :
    (makeField member).checkDeclaringInstance object =
      if object.data = 0 then .error .nullObject else .ok () := by
  unfold FieldInfo.checkDeclaringInstance
  rw [makeField_declaringType, htype]
  simp only [ne_eq, not_true_eq_false, if_false]

theorem appendFieldValue_isSome {toString : Memory → TypedRef T → Option String} {slot : Address}
    {memory : Memory} {object : TypedRef T} {member : MemberDeclaration T}
    (htype : object.type = some member.declaringType)
    (htoString : ∀ ref, ref.type = some member.type →
      ((toString memory ref).isSome ↔ goes (.object member.type ref.data)))
    (hslot : member.isBitField → ∀ memory',
      ((toString memory' { type := some member.type, data := slot }).isSome ↔
        goes (.object member.type slot)))
    (entries : Entries) :
    (appendFieldValue toString slot memory member object entries).isSome ↔
      ∀ visit ∈ Visit.ofMember slot memory object.data member, goes visit := by
  have hchecked := checkDeclaringInstance_eq member htype
  unfold appendFieldValue Visit.ofMember
  simp only [FieldInfo.getRef, FieldInfo.getValue, makeField_referencer, makeField_getter,
    makeFieldReferencer, makeFieldGetter]
  by_cases hdata : object.data = 0
  · rw [if_pos hdata] at hchecked
    simp [hchecked, hdata]
  rw [if_neg hdata] at hchecked
  simp only [hchecked, hdata, if_false]
  by_cases hbit : member.isBitField
  · simp only [hbit, if_true]
    cases hconstruct : member.copyConstruct with
    | none => simp
    | some construct =>
      simp only [Option.map_some, Option.isSome_some, if_true, List.forall_mem_singleton,
        fieldGetThunk, ne_eq, not_true_eq_false, if_false, Bool.false_eq_true]
      rw [Option.isSome_map]
      exact hslot hbit _
  · simp only [hbit, Bool.false_eq_true, if_false, List.forall_mem_singleton]
    rw [Option.isSome_map]
    exact htoString _ rfl

end

variable [DecidableEq T] {graph : TypeGraph T} {slot : Address}

omit [DecidableEq T] in
theorem unfoldsWithin_leaf {type : T} (hleaf : (graph.info type).IsLeaf) (memory : Memory)
    (data : Address) (fuel : Nat) :
    UnfoldsWithin (Visits graph slot memory) fuel (.object type data) ↔ 0 < fuel := by
  obtain ⟨hunion, hmembers, hbases, render, hrender⟩ := hleaf
  have hnone : (Visit.object type data).successors graph slot memory = [] := by
    simp [Visit.successors, Visit.ofThunk, TypeInfo.hasMembersToWalk, TypeInfo.canStringify,
      hunion, hmembers, hbases, hrender]
  cases fuel with
  | zero => exact iff_of_false (fun h => h) (Nat.lt_irrefl 0)
  | succ fuel =>
    refine iff_of_true ?_ (Nat.succ_pos fuel)
    intro visit hvisit
    rw [Visits, hnone] at hvisit
    cases hvisit

/-- Fuel is enough exactly when the calls unfold within it. -/
theorem renders_iff (fuel : Nat) :
    (∀ memory type (object : TypedRef T), object.type = some type →
      ((objectToString graph slot fuel memory object).isSome ↔
        UnfoldsWithin (Visits graph slot memory) fuel (.object type object.data))) ∧
    (∀ memory type (object : TypedRef T) entries, object.type = some type →
      ((appendMembers graph slot fuel memory type object entries).isSome ↔
        UnfoldsWithin (Visits graph slot memory) fuel (.members type object.data))) := by
  induction fuel with
  | zero =>
    constructor
    · intro memory type object _
      simp [objectToString, UnfoldsWithin]
    · intro memory type object entries _
      simp [appendMembers, UnfoldsWithin]
  | succ fuel ih =>
    obtain ⟨ihObject, ihMembers⟩ := ih
    constructor
    · intro memory type object htype
      simp only [objectToString, htype, UnfoldsWithin, Visits, Visit.successors]
      split
      · simp
      · split
        · exact stringify_isSome (fun t data => ihObject memory t _ rfl) _ memory _
        · rw [Option.isSome_map, ihMembers memory type object _ htype]
          exact List.forall_mem_singleton.symm
    · intro memory type object entries htype
      have hbases : ∀ base ∈ (graph.info type).bases, ∀ entries,
          (appendBase graph (appendMembers graph slot fuel memory)
            (objectToString graph slot fuel memory) memory object entries base).isSome ↔
          ∀ visit ∈ Visit.ofBase graph memory object.data base,
            UnfoldsWithin (Visits graph slot memory) fuel visit := fun base _ entries =>
        appendBase_isSome (fun base entries => ihMembers memory _ _ entries rfl)
          (fun t data => ihObject memory t _ rfl) memory entries base
      have hmembers : ∀ member ∈ (graph.info type).members, ∀ entries,
          (appendFieldValue (objectToString graph slot fuel) slot memory member object
            (beginEntry entries member.identifier)).isSome ↔
          ∀ visit ∈ Visit.ofMember slot memory object.data member,
            UnfoldsWithin (Visits graph slot memory) fuel visit := by
        intro member hmember entries
        apply appendFieldValue_isSome
        · rw [htype, graph.member_declaringType type member hmember]
        · exact fun ref href => ihObject memory _ ref href
        · intro hbit memory'
          -- a bit-field is a leaf, so the memory it is read in makes no difference
          have hleaf := graph.bitField_leaf type member hmember hbit
          rw [ihObject memory' _ _ rfl, unfoldsWithin_leaf hleaf, unfoldsWithin_leaf hleaf]
      simp only [appendMembers, UnfoldsWithin, Visits, Visit.successors, List.mem_append,
        List.mem_flatMap]
      have hfirst := foldlM_isSome hbases entries
      cases hfold : (graph.info type).bases.foldlM (appendBase graph
          (appendMembers graph slot fuel memory) (objectToString graph slot fuel memory) memory
          object) entries with
      | none =>
        rw [hfold] at hfirst
        refine iff_of_false (by simp) fun h => ?_
        have hall := hfirst.mpr fun base hbase visit hvisit =>
          h visit (Or.inl ⟨base, hbase, hvisit⟩)
        cases hall
      | some entries' =>
        rw [hfold] at hfirst
        rw [Option.bind_some, foldlM_isSome hmembers entries']
        constructor
        · intro h visit hvisit
          rcases hvisit with ⟨base, hbase, hvisit⟩ | ⟨member, hmember, hvisit⟩
          · exact hfirst.mp rfl base hbase visit hvisit
          · exact h member hmember visit hvisit
        · intro h member hmember visit hvisit
          exact h visit (Or.inr ⟨member, hmember, hvisit⟩)

/-- Rendering returns a text exactly when the visits from the object meet no cycle. -/
theorem objectToString_returns_iff [Finite T] (graph : TypeGraph T) (slot : Address)
    (memory : Memory) (type : T) (data : Address) (isConst movable : Bool) :
    (∃ fuel text, objectToString graph slot fuel memory
      { type := some type, data := data, isConst := isConst, movable := movable } = some text) ↔
      ¬ ReachesCycle (Visits graph slot memory) (.object type data) := by
  rw [← exists_unfoldsWithin_iff]
  apply exists_congr
  intro fuel
  rw [← Option.isSome_iff_exists]
  exact (renders_iff fuel).1 memory type _ rfl

def byteGraph : TypeGraph Unit where
  info := fun _ =>
    { displayName := "unsigned char"
      traits := { kind := .integral }
      stringifyThunk := some (.leaf fun memory obj => toString (memory obj).toNat) }
  const_inner := fun _ h => nomatch h
  volatile_inner := fun _ _ h => nomatch h
  pointer_inner := fun _ h => nomatch h
  member_declaringType := fun _ _ h => nomatch h
  bitField_leaf := fun _ _ h => nomatch h

theorem objectToString_returns_iff_byte :
    ∃ fuel text, objectToString byteGraph 8 fuel (fun _ => 0)
      { type := some (), data := 16, isConst := true, movable := false } = some text := by
  apply (objectToString_returns_iff byteGraph 8 (fun _ => 0) () 16 true false).mpr
  apply exists_unfoldsWithin_iff.mp
  refine ⟨1, (unfoldsWithin_leaf ?_ _ _ _).mpr Nat.one_pos⟩
  exact ⟨(fun h => nomatch h), rfl, rfl, _, rfl⟩

/-- `struct Link { Link& Self; }` -/
def selfMember : MemberDeclaration Unit where
  identifier := "Self"
  type := ()
  declaringType := ()
  byteOffset := 0
  reference := .lvalue
  copyConstruct := none
  assign := none

def linkGraph : TypeGraph Unit where
  info := fun _ =>
    { displayName := "Link", traits := { kind := .classType }, members := [selfMember] }
  const_inner := fun _ h => nomatch h
  volatile_inner := fun _ _ h => nomatch h
  pointer_inner := fun _ h => nomatch h
  member_declaringType := fun _ _ _ => rfl
  bitField_leaf := by
    intro _ member hmember hbit
    cases List.mem_singleton.mp hmember
    cases hbit

/-- A `Link` at address 16 that refers to itself. -/
def linkMemory : Memory := writePointer 16 16 fun _ => 0

theorem objectToString_link :
    ¬ ∃ fuel text, objectToString linkGraph 8 fuel linkMemory
      { type := some (), data := 16 } = some text := by
  intro h
  obtain ⟨fuel, text, htext⟩ := h
  have hwalk : Visits linkGraph 8 linkMemory (.object () 16) (.members () 16) :=
    List.mem_singleton_self _
  have hself : Visits linkGraph 8 linkMemory (.members () 16) (.object () 16) := by
    change Visit.object () 16 ∈ (Visit.members () 16).successors linkGraph 8 linkMemory
    decide
  have hunfolds := ((renders_iff fuel).1 linkMemory () { type := some (), data := 16 } rfl).mp
    (by rw [htext]; rfl)
  exact hunfolds.not_cycle (.head hwalk (.single hself))

end PlaygroundEngine.Reflection
