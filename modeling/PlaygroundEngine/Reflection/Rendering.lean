import PlaygroundEngine.Reflection.TypeGraph

/-!
# Rendering an object

`objectToString` with the thunks it recurses through. The recursion has no bound of
its own, so it runs on fuel; an object that needs more than any fuel is one the
program never returns from.
-/

namespace PlaygroundEngine.Reflection

set_option autoImplicit false

variable {T : Type}

namespace TypeInfo

def hasMembersToWalk (typeInfo : TypeInfo T) : Bool :=
  !typeInfo.members.isEmpty || !typeInfo.bases.isEmpty

def canStringify (typeInfo : TypeInfo T) : Bool := typeInfo.stringifyThunk.isSome

def rendersThroughFacet (typeInfo : TypeInfo T) : Bool :=
  !typeInfo.hasMembersToWalk && typeInfo.hasFacets && typeInfo.canStringify

end TypeInfo

/-- The output so far, and whether the next entry is the first one. -/
structure Entries where
  out : String
  firstEntry : Bool

def beginEntry (entries : Entries) (identifier : String) : Entries where
  out := (if entries.firstEntry then entries.out else entries.out ++ ", ") ++ identifier ++ ": "
  firstEntry := false

def Entries.append (entries : Entries) (text : String) : Entries :=
  { entries with out := entries.out ++ text }

def longSequenceThreshold : Nat := 10

def elementsToRender (container : ContainerDeclaration T) (memory : Memory) (obj : Address) :
    Nat :=
  min (container.size memory obj).toNat longSequenceThreshold

def appendElement (toString : TypedRef T → Option String) (container : ContainerDeclaration T)
    (memory : Memory) (obj : Address) (out : String) (index : Nat) : Option String :=
  let element := container.elementAddress memory obj (UInt64.ofNat index)
  (toString (typedRefOf container.element element true true)).map fun text =>
    (if index ≠ 0 then out ++ ", " else out) ++ text

def stringifySequence (toString : TypedRef T → Option String) (container : ContainerDeclaration T)
    (memory : Memory) (obj : Address) : Option String :=
  let isLongSequence := longSequenceThreshold < (container.size memory obj).toNat
  ((List.range (elementsToRender container memory obj)).foldlM
    (appendElement toString container memory obj) "[").map fun out =>
      (if isLongSequence then out ++ ", ..." else out) ++ "]"

/-- A type without a thunk is never asked for one. -/
def TypeInfo.stringify (typeInfo : TypeInfo T) (toString : TypedRef T → Option String)
    (memory : Memory) (obj : Address) : Option String :=
  match typeInfo.stringifyThunk with
  | none => some ""
  | some (.leaf render) => some (render memory obj)
  | some (.sequence container) => stringifySequence toString container memory obj

variable [DecidableEq T]

/-- `slot` is the stack slot a member without an address is read into. -/
def appendFieldValue (toString : Memory → TypedRef T → Option String) (slot : Address)
    (memory : Memory) (member : MemberDeclaration T) (object : TypedRef T) (entries : Entries) :
    Option Entries :=
  match ((makeField member).getRef object ⟨memory, []⟩).1 with
  | .ok ref => (toString memory ref).map entries.append
  | .error _ =>
    let slotRef : TypedRef T := { type := some member.type, data := slot }
    match (makeField member).getValue object slotRef ⟨memory, []⟩ with
    | (.ok _, machine) => (toString machine.memory slotRef).map entries.append
    | (.error _, _) => some (entries.append "<unreadable>")

omit [DecidableEq T] in
/-- `walk` appends the members of the base subobject. -/
def appendBase (graph : TypeGraph T) (walk : T → TypedRef T → Entries → Option Entries)
    (toString : TypedRef T → Option String) (memory : Memory) (object : TypedRef T)
    (entries : Entries) (base : BaseInfo T) : Option Entries :=
  let baseType := graph.info base.typeInfo
  let baseObject := base.upcast object
  if baseType.hasMembersToWalk then walk base.typeInfo baseObject entries
  else if baseType.rendersThroughFacet then
    (baseType.stringify toString memory baseObject.data).map
      (beginEntry entries baseType.displayName).append
  else some entries

mutual

/-- The source's call is on an object whose type is known, so a borrow without a tag
never comes here. -/
def objectToString (graph : TypeGraph T) (slot : Address) :
    Nat → Memory → TypedRef T → Option String
  | 0, _, _ => none
  | fuel + 1, memory, object =>
    match object.type with
    | none => none
    | some type =>
      if (graph.info type).traits.kind = .union then some "<union>"
      else if !(graph.info type).hasMembersToWalk && (graph.info type).canStringify then
        (graph.info type).stringify (objectToString graph slot fuel memory) memory object.data
      else
        (appendMembers graph slot fuel memory type object ⟨"\x7b", true⟩).map fun entries =>
          entries.out ++ "\x7d"

/-- Bases first, each through its own subobject, then the members of `type`. -/
def appendMembers (graph : TypeGraph T) (slot : Address) :
    Nat → Memory → T → TypedRef T → Entries → Option Entries
  | 0, _, _, _, _ => none
  | fuel + 1, memory, type, object, entries =>
    ((graph.info type).bases.foldlM (appendBase graph (appendMembers graph slot fuel memory)
      (objectToString graph slot fuel memory) memory object) entries).bind fun entries =>
        (graph.info type).members.foldlM (fun entries member =>
          appendFieldValue (objectToString graph slot fuel) slot memory member object
            (beginEntry entries member.identifier)) entries

end

/-- The second function returns whatever the first one does. -/
def Extends {A B : Type} (f g : A → Option B) : Prop := ∀ a b, f a = some b → g a = some b

section
omit [DecidableEq T]

theorem foldlM_extends {S A : Type} {f g : S → A → Option S}
    (h : ∀ a, Extends (fun state => f state a) fun state => g state a) (list : List A) :
    Extends (fun state => list.foldlM f state) fun state => list.foldlM g state := by
  induction list with
  | nil => exact fun _ _ hstate => hstate
  | cons a list ih =>
    intro state result hresult
    obtain ⟨next, hnext, hrest⟩ := Option.bind_eq_some_iff.mp hresult
    exact Option.bind_eq_some_iff.mpr ⟨next, h a state next hnext, ih next result hrest⟩

theorem map_extends {A B : Type} {x y : Option A} (h : ∀ a, x = some a → y = some a) (f : A → B)
    {b : B} (hx : x.map f = some b) : y.map f = some b := by
  obtain ⟨a, ha, rfl⟩ := Option.map_eq_some_iff.mp hx
  rw [h a ha, Option.map_some]

theorem stringify_extends {toString toString' : TypedRef T → Option String}
    (h : Extends toString toString') {typeInfo : TypeInfo T} {memory : Memory} {obj : Address}
    {text : String} (htext : typeInfo.stringify toString memory obj = some text) :
    typeInfo.stringify toString' memory obj = some text := by
  unfold TypeInfo.stringify at htext ⊢
  split at htext
  · exact htext
  · exact htext
  · refine map_extends (fun out hout => ?_) _ htext
    refine foldlM_extends (fun index out out' hout => ?_) _ _ _ hout
    exact map_extends (fun text => h _ text) _ hout

theorem appendBase_extends {graph : TypeGraph T}
    {walk walk' : T → TypedRef T → Entries → Option Entries}
    {toString toString' : TypedRef T → Option String}
    (hwalk : ∀ type object, Extends (walk type object) (walk' type object))
    (htoString : Extends toString toString') {memory : Memory} {object : TypedRef T}
    (base : BaseInfo T) :
    Extends (fun entries => appendBase graph walk toString memory object entries base)
      fun entries => appendBase graph walk' toString' memory object entries base := by
  intro entries result hresult
  unfold appendBase at hresult ⊢
  dsimp only at hresult ⊢
  split at hresult
  · rename_i hmembers
    rw [if_pos hmembers]
    exact hwalk _ _ _ _ hresult
  · rename_i hmembers
    rw [if_neg hmembers]
    split at hresult
    · rename_i hfacet
      rw [if_pos hfacet]
      exact map_extends (fun text htext => stringify_extends htoString htext) _ hresult
    · rename_i hfacet
      rw [if_neg hfacet]
      exact hresult

end

theorem appendFieldValue_extends {toString toString' : Memory → TypedRef T → Option String}
    (h : ∀ memory, Extends (toString memory) (toString' memory)) {slot : Address}
    {memory : Memory} {member : MemberDeclaration T} {object : TypedRef T} {entries : Entries} :
    ∀ result, appendFieldValue toString slot memory member object entries = some result →
      appendFieldValue toString' slot memory member object entries = some result := by
  intro result hresult
  unfold appendFieldValue at hresult ⊢
  split at hresult
  · exact map_extends (fun text => h memory _ text) _ hresult
  · dsimp only at hresult ⊢
    split at hresult
    · exact map_extends (fun text => h _ _ text) _ hresult
    · exact hresult

theorem renders_succ (graph : TypeGraph T) (slot : Address) (fuel : Nat) :
    (∀ memory, Extends (objectToString graph slot fuel memory)
      (objectToString graph slot (fuel + 1) memory)) ∧
    (∀ memory type object, Extends (appendMembers graph slot fuel memory type object)
      (appendMembers graph slot (fuel + 1) memory type object)) := by
  induction fuel with
  | zero =>
    constructor
    · intro memory object text htext
      rw [objectToString] at htext
      cases htext
    · intro memory type object entries result hresult
      rw [appendMembers] at hresult
      cases hresult
  | succ fuel ih =>
    obtain ⟨ihObject, ihMembers⟩ := ih
    constructor
    · intro memory object text htext
      rw [objectToString] at htext ⊢
      cases htype : object.type with
      | none =>
        rw [htype] at htext
        cases htext
      | some type =>
        rw [htype] at htext
        dsimp only at htext ⊢
        split at htext
        · rename_i hunion
          rw [if_pos hunion]
          exact htext
        · rename_i hunion
          rw [if_neg hunion]
          split at htext
          · rename_i hthunk
            rw [if_pos hthunk]
            exact stringify_extends (ihObject memory) htext
          · rename_i hthunk
            rw [if_neg hthunk]
            exact map_extends (fun entries => ihMembers memory type object _ entries) _ htext
    · intro memory type object entries result hresult
      rw [appendMembers] at hresult ⊢
      obtain ⟨entries', hbases, hmembers⟩ := Option.bind_eq_some_iff.mp hresult
      refine Option.bind_eq_some_iff.mpr ⟨entries', ?_, ?_⟩
      · refine foldlM_extends (fun base => ?_) _ _ _ hbases
        exact appendBase_extends (ihMembers memory) (ihObject memory) base
      · refine foldlM_extends (fun member entries => ?_) _ _ _ hmembers
        exact appendFieldValue_extends ihObject

theorem objectToString_mono {graph : TypeGraph T} {slot : Address} {fuel fuel' : Nat}
    {memory : Memory} {object : TypedRef T} {text : String} (hle : fuel ≤ fuel')
    (h : objectToString graph slot fuel memory object = some text) :
    objectToString graph slot fuel' memory object = some text := by
  induction hle with
  | refl => exact h
  | step _ ih => exact (renders_succ graph slot _).1 memory object text ih

end PlaygroundEngine.Reflection
