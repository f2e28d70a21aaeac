import PlaygroundEngine.Library.SortedMap
import PlaygroundEngine.Reflection.TypedRef

/-!
# The entity component store

`Ecs` keeps every component record twice, once per type and once per entity.
The written pre-conditions are dropped by the compiler, so the bodies below are
the whole behaviour, misuse included.
-/

namespace PlaygroundEngine

open Library Reflection
set_option autoImplicit false

variable {T : Type} [LinearOrder T]

structure Entity where
  id : Int := 0
  deriving DecidableEq, Repr

def Entity.invalidId : Int := 0

/-- `componentInstance` is the object the shared pointer owns. -/
structure ComponentRecord (T : Type) where
  componentInstance : Address
  ref : TypedRef T
  deriving DecidableEq

abbrev ComponentsByEntity (T : Type) := SortedMap Int (ComponentRecord T)
abbrev ComponentsByType (T : Type) [LinearOrder T] := SortedMap T (ComponentRecord T)

structure Ecs (T : Type) [LinearOrder T] where
  componentsPerType : SortedMap T (ComponentsByEntity T) := .empty
  componentsPerEntity : SortedMap Int (ComponentsByType T) := .empty
  lastEntityId : Int := Entity.invalidId

namespace Ecs

/-- The value of a 32-bit `int` holding `x`, two's complement. -/
def wrapInt32 (x : Int) : Int := (x + 2 ^ 31) % 2 ^ 32 - 2 ^ 31

theorem wrapInt32_of_lt {x : Int} (hlow : 0 ≤ x) (hhigh : x < 2 ^ 31) : wrapInt32 x = x := by
  unfold wrapInt32
  omega

def addEntity (ecs : Ecs T) : Entity × Ecs T :=
  let id := wrapInt32 (ecs.lastEntityId + 1)
  (⟨id⟩, { ecs with
    lastEntityId := id
    componentsPerEntity := ecs.componentsPerEntity.tryEmplace id .empty })

def isEntityAlive (ecs : Ecs T) (entity : Entity) : Bool :=
  ecs.componentsPerEntity.contains entity.id

def getEntities (ecs : Ecs T) : List Entity :=
  ecs.componentsPerEntity.keys.map Entity.mk

/-- A type nothing was ever added for reads as empty. -/
def componentsOfType (ecs : Ecs T) (componentType : T) : ComponentsByEntity T :=
  (ecs.componentsPerType.find? componentType).getD .empty

def findComponent (ecs : Ecs T) (componentType : T) (entity : Entity) :
    Option (ComponentRecord T) :=
  (ecs.componentsOfType componentType).find? entity.id

/-- `component` is the object `make_shared` returned for this call. -/
def addComponentToEntity (ecs : Ecs T) (componentType : T) (component : Address)
    (entity : Entity) : Option Address × Ecs T :=
  match ecs.componentsPerEntity.find? entity.id with
  | none => (none, ecs)
  | some componentsOfEntity =>
    let record : ComponentRecord T := ⟨component, typedRefOf componentType component false true⟩
    (some component, { ecs with
      componentsPerType := ecs.componentsPerType.insert componentType
        ((ecs.componentsOfType componentType).insert entity.id record)
      componentsPerEntity := ecs.componentsPerEntity.insert entity.id
        (componentsOfEntity.insert componentType record) })

def tryGetComponent (ecs : Ecs T) (componentType : T) (entity : Entity) : Option Address :=
  (ecs.findComponent componentType entity).map (·.componentInstance)

def getComponents (ecs : Ecs T) (componentType : T) : List Address :=
  (ecs.componentsOfType componentType).values.map (·.componentInstance)

def getComponentsWithEntities (ecs : Ecs T) (componentType : T) : List (Entity × Address) :=
  (ecs.componentsOfType componentType).entries.map fun e => (⟨e.1⟩, e.2.componentInstance)

def getEntityComponents (ecs : Ecs T) (entity : Entity) : List (TypedRef T) :=
  match ecs.componentsPerEntity.find? entity.id with
  | none => []
  | some componentsOfEntity => componentsOfEntity.values.map (·.ref)

/-- The loop over the destroyed entity's own types. -/
def eraseFromTypes (entity : Entity) (componentTypes : List T)
    (componentsPerType : SortedMap T (ComponentsByEntity T)) :
    SortedMap T (ComponentsByEntity T) :=
  componentTypes.foldl
    (fun perType componentType => perType.modify componentType (·.erase entity.id))
    componentsPerType

def destroyEntity (ecs : Ecs T) (entity : Entity) : Ecs T :=
  match ecs.componentsPerEntity.find? entity.id with
  | none => ecs
  | some componentsOfEntity =>
    { ecs with
      componentsPerType := eraseFromTypes entity componentsOfEntity.keys ecs.componentsPerType
      componentsPerEntity := ecs.componentsPerEntity.erase entity.id }

def destroyComponent (ecs : Ecs T) (componentType : T) (entity : Entity) : Ecs T :=
  { ecs with
    componentsPerType := ecs.componentsPerType.modify componentType (·.erase entity.id)
    componentsPerEntity := ecs.componentsPerEntity.modify entity.id (·.erase componentType) }

def recordByType (ecs : Ecs T) (componentType : T) (id : Int) : Option (ComponentRecord T) :=
  (ecs.componentsPerType.find? componentType).bind (·.find? id)

def recordByEntity (ecs : Ecs T) (id : Int) (componentType : T) : Option (ComponentRecord T) :=
  (ecs.componentsPerEntity.find? id).bind (·.find? componentType)

theorem findComponent_eq (ecs : Ecs T) (componentType : T) (entity : Entity) :
    ecs.findComponent componentType entity = ecs.recordByType componentType entity.id := by
  unfold findComponent componentsOfType recordByType
  cases ecs.componentsPerType.find? componentType <;> rfl

theorem find?_componentsOfType (ecs : Ecs T) (componentType : T) (id : Int) :
    (ecs.componentsOfType componentType).find? id = ecs.recordByType componentType id :=
  findComponent_eq ecs componentType ⟨id⟩

theorem recordByEntity_isSome_alive {ecs : Ecs T} {id : Int} {componentType : T}
    (h : (ecs.recordByEntity id componentType).isSome) : ecs.isEntityAlive ⟨id⟩ := by
  unfold recordByEntity at h
  unfold isEntityAlive
  cases hid : ecs.componentsPerEntity.find? id with
  | none => simp [hid] at h
  | some _ => simp [SortedMap.contains_eq, hid]

theorem isEntityAlive_iff (ecs : Ecs T) (entity : Entity) :
    ecs.isEntityAlive entity ↔ (ecs.componentsPerEntity.find? entity.id).isSome := Iff.rfl

theorem find?_eraseFromTypes (entity : Entity) (componentTypes : List T)
    (perType : SortedMap T (ComponentsByEntity T)) (t : T) (id : Int) :
    ((eraseFromTypes entity componentTypes perType).find? t).bind (·.find? id) =
      if id = entity.id ∧ t ∈ componentTypes then none
      else (perType.find? t).bind (·.find? id) := by
  induction componentTypes generalizing perType with
  | nil => simp [eraseFromTypes]
  | cons c rest ih =>
    have hstep : eraseFromTypes entity (c :: rest) perType =
        eraseFromTypes entity rest (perType.modify c (·.erase entity.id)) := rfl
    rw [hstep, ih, SortedMap.find?_modify]
    by_cases ht : t = c
    · subst ht
      cases perType.find? t with
      | none => simp
      | some byEntity =>
        by_cases hid : id = entity.id <;> simp [SortedMap.find?_erase, hid]
    · simp [ht]

end Ecs

end PlaygroundEngine
