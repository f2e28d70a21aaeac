import PlaygroundEngine.Ecs.Ecs

/-!
# The two component indexes

Every operation rewrites one cell, one row or nothing in each index. The
invariant says that the indexes are transposes; it is proved once per operation
and carried over arbitrary runs.
-/

namespace PlaygroundEngine

open Library Reflection
set_option autoImplicit false

variable {T : Type} [LinearOrder T]

inductive EcsOperation (T : Type) where
  | addEntity
  | addComponentToEntity (componentType : T) (component : Address) (entity : Entity)
  | destroyComponent (componentType : T) (entity : Entity)
  | destroyEntity (entity : Entity)
  deriving DecidableEq

namespace Ecs

def apply (ecs : Ecs T) : EcsOperation T → Ecs T
  | .addEntity => ecs.addEntity.2
  | .addComponentToEntity t component entity => (ecs.addComponentToEntity t component entity).2
  | .destroyComponent t entity => ecs.destroyComponent t entity
  | .destroyEntity entity => ecs.destroyEntity entity

/-- The store after a sequence of calls on an initially empty one. -/
def run (operations : List (EcsOperation T)) : Ecs T := operations.foldl apply {}

theorem run_append (before after : List (EcsOperation T)) :
    run (before ++ after) = after.foldl apply (run before) :=
  List.foldl_append

def addedEntities (operations : List (EcsOperation T)) : Nat :=
  operations.countP fun operation => decide (operation = .addEntity)

theorem addedEntities_append (before after : List (EcsOperation T)) :
    addedEntities (before ++ after) = addedEntities before + addedEntities after :=
  List.countP_append

/-- The two indexes hold the same records. -/
def Transposed (ecs : Ecs T) : Prop :=
  ∀ t id, ecs.recordByType t id = ecs.recordByEntity id t

structure Consistent (ecs : Ecs T) : Prop where
  transposed : ∀ t id, ecs.recordByType t id = ecs.recordByEntity id t
  tagged : ∀ t id record, ecs.recordByType t id = some record →
    record.ref = typedRefOf t record.componentInstance false true
  issued : ∀ entity, ecs.isEntityAlive entity → 1 ≤ entity.id ∧ entity.id ≤ ecs.lastEntityId
  lastEntityId_nonneg : 0 ≤ ecs.lastEntityId

theorem consistent_empty : Consistent ({} : Ecs T) where
  transposed _ _ := rfl
  tagged _ _ _ h := nomatch h
  issued _ h := nomatch h
  lastEntityId_nonneg := Int.le_refl 0

theorem recordByEntity_addEntity (ecs : Ecs T) (id : Int) (t : T) :
    ecs.addEntity.2.recordByEntity id t = ecs.recordByEntity id t := by
  simp only [addEntity, recordByEntity, SortedMap.find?_tryEmplace]
  split
  · rename_i hid
    rw [← hid]
    cases ecs.componentsPerEntity.find? id with
    | none => rfl
    | some _ => rfl
  · rfl

theorem transposed_addEntity {ecs : Ecs T} (hecs : Transposed ecs) :
    Transposed ecs.addEntity.2 := fun t id =>
  (hecs t id).trans (recordByEntity_addEntity ecs id t).symm

section AddEntity

variable {ecs : Ecs T} (hecs : Consistent ecs) (hroom : ecs.lastEntityId < 2 ^ 31 - 1)
include hecs hroom

theorem lastEntityId_addEntity : ecs.addEntity.2.lastEntityId = ecs.lastEntityId + 1 := by
  have hlast := hecs.lastEntityId_nonneg
  exact wrapInt32_of_lt (by omega) (by omega)

omit hroom in
theorem nextEntityId_fresh : ecs.componentsPerEntity.find? (ecs.lastEntityId + 1) = none := by
  by_contra hne
  have halive : ecs.isEntityAlive ⟨ecs.lastEntityId + 1⟩ := by
    rw [isEntityAlive_iff]
    exact Option.isSome_iff_ne_none.mpr hne
  have hbound := (hecs.issued _ halive).2
  simp only at hbound
  omega

theorem find?_addEntity (id : Int) :
    ecs.addEntity.2.componentsPerEntity.find? id =
      if id = ecs.lastEntityId + 1 then some .empty else ecs.componentsPerEntity.find? id := by
  have hwrap : wrapInt32 (ecs.lastEntityId + 1) = ecs.lastEntityId + 1 :=
    lastEntityId_addEntity hecs hroom
  simp only [addEntity, hwrap, SortedMap.find?_tryEmplace, nextEntityId_fresh hecs,
    Option.getD_none]

theorem consistent_addEntity : Consistent ecs.addEntity.2 where
  transposed := transposed_addEntity hecs.transposed
  tagged := hecs.tagged
  issued entity h := by
    have hlast := hecs.lastEntityId_nonneg
    rw [isEntityAlive_iff, find?_addEntity hecs hroom] at h
    rw [lastEntityId_addEntity hecs hroom]
    by_cases hid : entity.id = ecs.lastEntityId + 1
    · omega
    · rw [if_neg hid] at h
      have hold := hecs.issued entity h
      omega
  lastEntityId_nonneg := by
    have hlast := hecs.lastEntityId_nonneg
    rw [lastEntityId_addEntity hecs hroom]
    omega

end AddEntity

theorem addComponentToEntity_dead {ecs : Ecs T} {entity : Entity} (t : T) (component : Address)
    (h : ecs.componentsPerEntity.find? entity.id = none) :
    ecs.addComponentToEntity t component entity = (none, ecs) := by
  unfold addComponentToEntity
  rw [h]

section AddComponent

variable {ecs : Ecs T} {entity : Entity} (t : T) (component : Address)
  {componentsOfEntity : ComponentsByType T}
  (halive : ecs.componentsPerEntity.find? entity.id = some componentsOfEntity)
include halive

theorem recordByType_addComponent (t' : T) (id : Int) :
    (ecs.addComponentToEntity t component entity).2.recordByType t' id =
      if t' = t ∧ id = entity.id then some ⟨component, typedRefOf t component false true⟩
      else ecs.recordByType t' id := by
  simp only [addComponentToEntity, halive, recordByType, SortedMap.find?_insert]
  by_cases ht : t' = t
  · subst ht
    by_cases hid : id = entity.id
    · simp [SortedMap.find?_insert, hid]
    · rw [if_pos rfl, Option.bind_some, SortedMap.find?_insert, if_neg hid,
        if_neg (fun h => hid h.2)]
      exact ecs.find?_componentsOfType t' id
  · simp [ht]

theorem recordByEntity_addComponent (t' : T) (id : Int) :
    (ecs.addComponentToEntity t component entity).2.recordByEntity id t' =
      if t' = t ∧ id = entity.id then some ⟨component, typedRefOf t component false true⟩
      else ecs.recordByEntity id t' := by
  simp only [addComponentToEntity, halive, recordByEntity, SortedMap.find?_insert]
  by_cases hid : id = entity.id
  · subst hid
    by_cases ht : t' = t <;> simp [SortedMap.find?_insert, ht, halive]
  · simp [hid]

theorem isEntityAlive_addComponent (e : Entity) :
    (ecs.addComponentToEntity t component entity).2.isEntityAlive e = ecs.isEntityAlive e := by
  simp only [addComponentToEntity, halive, isEntityAlive, SortedMap.contains_eq,
    SortedMap.find?_insert]
  by_cases he : e.id = entity.id
  · rw [if_pos he, he, halive]
    rfl
  · rw [if_neg he]

theorem transposed_addComponent_alive (hecs : Transposed ecs) :
    Transposed (ecs.addComponentToEntity t component entity).2 := by
  intro t' id
  rw [recordByType_addComponent t component halive,
    recordByEntity_addComponent t component halive, hecs]

theorem consistent_addComponent_alive (hecs : Consistent ecs) :
    Consistent (ecs.addComponentToEntity t component entity).2 where
  transposed := transposed_addComponent_alive t component halive hecs.transposed
  tagged t' id record h := by
    rw [recordByType_addComponent t component halive] at h
    split at h
    · rename_i hcell
      cases h
      rw [hcell.1]
    · exact hecs.tagged t' id record h
  issued e he := by
    rw [isEntityAlive_addComponent t component halive] at he
    have hlast :
        (ecs.addComponentToEntity t component entity).2.lastEntityId = ecs.lastEntityId := by
      simp only [addComponentToEntity, halive]
    rw [hlast]
    exact hecs.issued e he
  lastEntityId_nonneg := by
    simp only [addComponentToEntity, halive]
    exact hecs.lastEntityId_nonneg

end AddComponent

theorem transposed_addComponent {ecs : Ecs T} (hecs : Transposed ecs) (t : T)
    (component : Address) (entity : Entity) :
    Transposed (ecs.addComponentToEntity t component entity).2 := by
  cases halive : ecs.componentsPerEntity.find? entity.id with
  | none =>
    rw [addComponentToEntity_dead t component halive]
    exact hecs
  | some componentsOfEntity => exact transposed_addComponent_alive t component halive hecs

theorem consistent_addComponent {ecs : Ecs T} (hecs : Consistent ecs) (t : T) (component : Address)
    (entity : Entity) : Consistent (ecs.addComponentToEntity t component entity).2 := by
  cases halive : ecs.componentsPerEntity.find? entity.id with
  | none =>
    rw [addComponentToEntity_dead t component halive]
    exact hecs
  | some componentsOfEntity => exact consistent_addComponent_alive t component halive hecs

theorem recordByType_destroyComponent (ecs : Ecs T) (t t' : T) (entity : Entity) (id : Int) :
    (ecs.destroyComponent t entity).recordByType t' id =
      if t' = t ∧ id = entity.id then none else ecs.recordByType t' id := by
  simp only [destroyComponent, recordByType, SortedMap.find?_modify]
  by_cases ht : t' = t
  · subst ht
    cases ecs.componentsPerType.find? t' with
    | none => simp
    | some byEntity => by_cases hid : id = entity.id <;> simp [SortedMap.find?_erase, hid]
  · simp [ht]

theorem recordByEntity_destroyComponent (ecs : Ecs T) (t t' : T) (entity : Entity) (id : Int) :
    (ecs.destroyComponent t entity).recordByEntity id t' =
      if t' = t ∧ id = entity.id then none else ecs.recordByEntity id t' := by
  simp only [destroyComponent, recordByEntity, SortedMap.find?_modify]
  by_cases hid : id = entity.id
  · subst hid
    cases ecs.componentsPerEntity.find? entity.id with
    | none => simp
    | some byType => by_cases ht : t' = t <;> simp [SortedMap.find?_erase, ht]
  · simp [hid]

theorem isEntityAlive_destroyComponent (ecs : Ecs T) (t : T) (entity e : Entity) :
    (ecs.destroyComponent t entity).isEntityAlive e = ecs.isEntityAlive e := by
  simp only [destroyComponent, isEntityAlive, SortedMap.contains_eq, SortedMap.find?_modify]
  by_cases he : e.id = entity.id
  · rw [if_pos he, he, Option.isSome_map]
  · rw [if_neg he]

theorem transposed_destroyComponent {ecs : Ecs T} (hecs : Transposed ecs) (t : T)
    (entity : Entity) : Transposed (ecs.destroyComponent t entity) := by
  intro t' id
  rw [recordByType_destroyComponent, recordByEntity_destroyComponent, hecs]

theorem consistent_destroyComponent {ecs : Ecs T} (hecs : Consistent ecs) (t : T)
    (entity : Entity) :
    Consistent (ecs.destroyComponent t entity) where
  transposed := transposed_destroyComponent hecs.transposed t entity
  tagged t' id record h := by
    rw [recordByType_destroyComponent] at h
    split at h
    · cases h
    · exact hecs.tagged t' id record h
  issued e he := by
    rw [isEntityAlive_destroyComponent] at he
    exact hecs.issued e he
  lastEntityId_nonneg := hecs.lastEntityId_nonneg

theorem recordByEntity_destroyEntity (ecs : Ecs T) (entity : Entity) (t : T) (id : Int) :
    (ecs.destroyEntity entity).recordByEntity id t =
      if id = entity.id then none else ecs.recordByEntity id t := by
  cases halive : ecs.componentsPerEntity.find? entity.id with
  | none =>
    simp only [destroyEntity, halive]
    split
    · rename_i hid
      simp [recordByEntity, hid, halive]
    · rfl
  | some byType =>
    simp only [destroyEntity, halive, recordByEntity, SortedMap.find?_erase]
    split <;> rfl

theorem recordByType_destroyEntity {ecs : Ecs T} (hecs : Transposed ecs) (entity : Entity) (t : T)
    (id : Int) : (ecs.destroyEntity entity).recordByType t id =
      if id = entity.id then none else ecs.recordByType t id := by
  cases halive : ecs.componentsPerEntity.find? entity.id with
  | none =>
    simp only [destroyEntity, halive]
    split
    · rename_i hid
      rw [hecs]
      simp [recordByEntity, hid, halive]
    · rfl
  | some byType =>
    simp only [destroyEntity, halive, recordByType]
    rw [find?_eraseFromTypes]
    by_cases hid : id = entity.id
    · rw [if_pos hid]
      by_cases hmem : t ∈ byType.keys
      · rw [if_pos ⟨hid, hmem⟩]
      · rw [if_neg (fun h => hmem h.2)]
        have hcell := hecs t id
        have habsent : byType.find? t = none := by
          rw [SortedMap.mem_keys_iff] at hmem
          simpa using hmem
        rw [recordByType, recordByEntity, hid, halive, Option.bind_some, habsent] at hcell
        rw [hid]
        exact hcell
    · rw [if_neg (fun h => hid h.1), if_neg hid]

theorem isEntityAlive_destroyEntity (ecs : Ecs T) (entity e : Entity) :
    (ecs.destroyEntity entity).isEntityAlive e =
      (ecs.isEntityAlive e && decide (e.id ≠ entity.id)) := by
  cases halive : ecs.componentsPerEntity.find? entity.id with
  | none =>
    by_cases he : e.id = entity.id <;>
      simp [destroyEntity, isEntityAlive, SortedMap.contains_eq, halive, he]
  | some byType =>
    by_cases he : e.id = entity.id <;>
      simp [destroyEntity, isEntityAlive, SortedMap.contains_eq, SortedMap.find?_erase, halive, he]

theorem lastEntityId_destroyEntity (ecs : Ecs T) (entity : Entity) :
    (ecs.destroyEntity entity).lastEntityId = ecs.lastEntityId := by
  unfold destroyEntity
  split <;> rfl

theorem transposed_destroyEntity {ecs : Ecs T} (hecs : Transposed ecs) (entity : Entity) :
    Transposed (ecs.destroyEntity entity) := by
  intro t id
  rw [recordByType_destroyEntity hecs, recordByEntity_destroyEntity, hecs]

theorem consistent_destroyEntity {ecs : Ecs T} (hecs : Consistent ecs) (entity : Entity) :
    Consistent (ecs.destroyEntity entity) where
  transposed := transposed_destroyEntity hecs.transposed entity
  tagged t id record h := by
    rw [recordByType_destroyEntity hecs.transposed] at h
    split at h
    · cases h
    · exact hecs.tagged t id record h
  issued e he := by
    rw [isEntityAlive_destroyEntity, Bool.and_eq_true] at he
    rw [lastEntityId_destroyEntity]
    exact hecs.issued e he.1
  lastEntityId_nonneg := by
    rw [lastEntityId_destroyEntity]
    exact hecs.lastEntityId_nonneg

/-! ### Whole runs -/

theorem transposed_apply {ecs : Ecs T} (hecs : Transposed ecs) (operation : EcsOperation T) :
    Transposed (ecs.apply operation) := by
  cases operation with
  | addEntity => exact transposed_addEntity hecs
  | addComponentToEntity t component entity => exact transposed_addComponent hecs t component entity
  | destroyComponent t entity => exact transposed_destroyComponent hecs t entity
  | destroyEntity entity => exact transposed_destroyEntity hecs entity

/-- The indexes stay transposes of each other even when identifiers run out. -/
theorem transposed_run (operations : List (EcsOperation T)) :
    Transposed (run operations : Ecs T) := by
  unfold run
  induction operations using List.reverseRecOn with
  | nil => exact fun _ _ => rfl
  | append_singleton rest operation ih =>
    rw [List.foldl_append]
    exact transposed_apply ih operation

theorem consistent_apply {ecs : Ecs T} (hecs : Consistent ecs) (operation : EcsOperation T)
    (hroom : operation = .addEntity → ecs.lastEntityId < 2 ^ 31 - 1) :
    Consistent (ecs.apply operation) := by
  cases operation with
  | addEntity => exact consistent_addEntity hecs (hroom rfl)
  | addComponentToEntity t component entity => exact consistent_addComponent hecs t component entity
  | destroyComponent t entity => exact consistent_destroyComponent hecs t entity
  | destroyEntity entity => exact consistent_destroyEntity hecs entity

theorem lastEntityId_apply {ecs : Ecs T} (operation : EcsOperation T)
    (hne : operation ≠ .addEntity) : (ecs.apply operation).lastEntityId = ecs.lastEntityId := by
  cases operation with
  | addEntity => exact absurd rfl hne
  | addComponentToEntity t component entity =>
    simp only [apply, addComponentToEntity]
    split <;> rfl
  | destroyComponent t entity => rfl
  | destroyEntity entity => exact lastEntityId_destroyEntity ecs entity

theorem consistent_foldl (operations : List (EcsOperation T)) {ecs : Ecs T} (hecs : Consistent ecs)
    (hroom : ecs.lastEntityId + addedEntities operations < 2 ^ 31) :
    Consistent (operations.foldl apply ecs) ∧
      (operations.foldl apply ecs).lastEntityId = ecs.lastEntityId + addedEntities operations := by
  induction operations generalizing ecs with
  | nil => exact ⟨hecs, (Int.add_zero _).symm⟩
  | cons operation rest ih =>
    rw [List.foldl_cons]
    by_cases hadd : operation = .addEntity
    · subst hadd
      have hcount : addedEntities (.addEntity :: rest : List (EcsOperation T)) =
          addedEntities rest + 1 := by simp [addedEntities]
      rw [hcount] at hroom ⊢
      have hlast := lastEntityId_addEntity hecs (by omega)
      have hnext : (ecs.apply .addEntity).lastEntityId = ecs.lastEntityId + 1 := hlast
      obtain ⟨hrest, hid⟩ := ih (consistent_addEntity hecs (by omega)) (by omega)
      refine ⟨hrest, ?_⟩
      change (rest.foldl apply ecs.addEntity.2).lastEntityId = _
      omega
    · have hcount : addedEntities (operation :: rest) = addedEntities rest := by
        simp [addedEntities, hadd]
      rw [hcount] at hroom ⊢
      have hlast := @lastEntityId_apply _ _ ecs operation hadd
      obtain ⟨hrest, hid⟩ := ih (consistent_apply hecs operation (fun h => absurd h hadd))
        (by omega)
      exact ⟨hrest, by omega⟩

theorem consistent_run (operations : List (EcsOperation T))
    (hroom : addedEntities operations < 2 ^ 31) :
    Consistent (run operations : Ecs T) ∧
      (run operations : Ecs T).lastEntityId = addedEntities operations := by
  have hbound : ({} : Ecs T).lastEntityId + addedEntities operations < 2 ^ 31 := by
    change (0 : Int) + addedEntities operations < 2 ^ 31
    omega
  obtain ⟨hrun, hlast⟩ := consistent_foldl operations consistent_empty hbound
  exact ⟨hrun, hlast.trans (Int.zero_add _)⟩

/-- Only `addEntity` brings an identifier to life, and only the next one. -/
theorem alive_apply {ecs : Ecs T} (hecs : Consistent ecs) (operation : EcsOperation T)
    (hroom : operation = .addEntity → ecs.lastEntityId < 2 ^ 31 - 1) {entity : Entity}
    (hissued : entity.id ≤ ecs.lastEntityId) (h : (ecs.apply operation).isEntityAlive entity) :
    ecs.isEntityAlive entity := by
  cases operation with
  | addEntity =>
    rw [apply, isEntityAlive_iff, find?_addEntity hecs (hroom rfl), if_neg (by omega)] at h
    exact h
  | addComponentToEntity t component target =>
    cases halive : ecs.componentsPerEntity.find? target.id with
    | none =>
      rw [apply, addComponentToEntity_dead t component halive] at h
      exact h
    | some componentsOfEntity =>
      rw [apply, isEntityAlive_addComponent t component halive] at h
      exact h
  | destroyComponent t target =>
    rw [apply, isEntityAlive_destroyComponent] at h
    exact h
  | destroyEntity target =>
    rw [apply, isEntityAlive_destroyEntity, Bool.and_eq_true] at h
    exact h.1

theorem dead_foldl (operations : List (EcsOperation T)) {ecs : Ecs T} (hecs : Consistent ecs)
    (hroom : ecs.lastEntityId + addedEntities operations < 2 ^ 31) {entity : Entity}
    (hissued : entity.id ≤ ecs.lastEntityId) (hdead : ¬ ecs.isEntityAlive entity) :
    ¬ (operations.foldl apply ecs).isEntityAlive entity := by
  induction operations generalizing ecs with
  | nil => exact hdead
  | cons operation rest ih =>
    rw [List.foldl_cons]
    have hsplit : addedEntities (operation :: rest) =
        addedEntities rest + addedEntities [operation] := by
      simp [addedEntities, List.countP_cons]
    have hguard : operation = .addEntity → ecs.lastEntityId < 2 ^ 31 - 1 := by
      rintro rfl
      have hone : addedEntities ([.addEntity] : List (EcsOperation T)) = 1 := by
        simp [addedEntities]
      omega
    obtain ⟨hnext, hlast⟩ := consistent_foldl [operation] hecs (by omega)
    simp only [List.foldl_cons, List.foldl_nil] at hnext hlast
    refine ih hnext (by omega) (by omega) ?_
    exact fun h => hdead (alive_apply hecs operation hguard hissued h)

theorem mem_getEntities (ecs : Ecs T) (entity : Entity) :
    entity ∈ ecs.getEntities ↔ ecs.isEntityAlive entity := by
  rw [isEntityAlive_iff, ← SortedMap.mem_keys_iff]
  constructor
  · intro h
    obtain ⟨id, hid, rfl⟩ := List.mem_map.mp h
    exact hid
  · intro h
    exact List.mem_map.mpr ⟨entity.id, h, rfl⟩

theorem getEntities_ascending (ecs : Ecs T) :
    ecs.getEntities.Pairwise fun a b => a.id < b.id :=
  List.pairwise_map.mpr ecs.componentsPerEntity.keys_ascending

theorem tryGetComponent_eq_some (ecs : Ecs T) (t : T) (entity : Entity) (component : Address) :
    ecs.tryGetComponent t entity = some component ↔
      ∃ record, ecs.recordByType t entity.id = some record ∧
        record.componentInstance = component := by
  rw [tryGetComponent, findComponent_eq, Option.map_eq_some_iff]

theorem mem_getComponentsWithEntities (ecs : Ecs T) (t : T) (entity : Entity)
    (component : Address) :
    (entity, component) ∈ ecs.getComponentsWithEntities t ↔
      ecs.tryGetComponent t entity = some component := by
  rw [tryGetComponent_eq_some]
  constructor
  · intro h
    obtain ⟨⟨id, record⟩, hmem, heq⟩ := List.mem_map.mp h
    cases heq
    refine ⟨record, ?_, rfl⟩
    rw [← find?_componentsOfType]
    exact (SortedMap.mem_entries_iff _ _ _).mp hmem
  · rintro ⟨record, hrecord, rfl⟩
    rw [← find?_componentsOfType] at hrecord
    exact List.mem_map.mpr ⟨(entity.id, record), (SortedMap.mem_entries_iff _ _ _).mpr hrecord, rfl⟩

theorem getComponentsWithEntities_ascending (ecs : Ecs T) (t : T) :
    (ecs.getComponentsWithEntities t).Pairwise fun a b => a.1.id < b.1.id :=
  List.pairwise_map.mpr (ecs.componentsOfType t).ascending

theorem mem_getEntityComponents (ecs : Ecs T) (entity : Entity) (ref : TypedRef T) :
    ref ∈ ecs.getEntityComponents entity ↔
      ∃ t record, ecs.recordByEntity entity.id t = some record ∧ record.ref = ref := by
  unfold getEntityComponents recordByEntity
  cases ecs.componentsPerEntity.find? entity.id with
  | none => simp
  | some byType =>
    simp only [List.mem_map, SortedMap.mem_values_iff, Option.bind_some]
    constructor
    · rintro ⟨record, ⟨t, ht⟩, hrecord⟩
      exact ⟨t, record, ht, hrecord⟩
    · rintro ⟨t, record, ht, hrecord⟩
      exact ⟨record, ⟨t, ht⟩, hrecord⟩

theorem mem_getEntityComponents_iff {ecs : Ecs T} (hecs : Consistent ecs) (t : T) (entity : Entity)
    (component : Address) :
    typedRefOf t component false true ∈ ecs.getEntityComponents entity ↔
      ecs.tryGetComponent t entity = some component := by
  rw [mem_getEntityComponents, tryGetComponent_eq_some]
  constructor
  · rintro ⟨t', record, hrecord, href⟩
    rw [← hecs.transposed] at hrecord
    rw [hecs.tagged t' _ record hrecord] at href
    have htype : t' = t := Option.some.inj (congrArg TypedRef.type href)
    exact ⟨record, htype ▸ hrecord, congrArg TypedRef.data href⟩
  · rintro ⟨record, hrecord, rfl⟩
    refine ⟨t, record, ?_, hecs.tagged t _ record hrecord⟩
    rw [← hecs.transposed]
    exact hrecord

theorem alive_of_tryGetComponent {ecs : Ecs T} (hecs : Transposed ecs) {t : T} {entity : Entity}
    {component : Address} (h : ecs.tryGetComponent t entity = some component) :
    ecs.isEntityAlive entity := by
  obtain ⟨record, hrecord, _⟩ := (tryGetComponent_eq_some ecs t entity component).mp h
  rw [hecs] at hrecord
  exact recordByEntity_isSome_alive (Option.isSome_iff_exists.mpr ⟨record, hrecord⟩)

/-- What the two indexes and the queries that read only one of them agree on. -/
structure IndexesAgree (ecs : Ecs T) : Prop where
  transposed : ∀ t id record,
    ecs.recordByType t id = some record ↔ ecs.recordByEntity id t = some record
  typeIndex_alive : ∀ t id, (ecs.recordByType t id).isSome → ecs.isEntityAlive ⟨id⟩
  entityIndex_alive : ∀ t id, (ecs.recordByEntity id t).isSome → ecs.isEntityAlive ⟨id⟩
  issued : ∀ entity, ecs.isEntityAlive entity → 1 ≤ entity.id ∧ entity.id ≤ ecs.lastEntityId
  entities : ∀ entity, entity ∈ ecs.getEntities ↔ ecs.isEntityAlive entity
  entities_ascending : ecs.getEntities.Pairwise fun a b => a.id < b.id
  withEntities : ∀ t entity component, (entity, component) ∈ ecs.getComponentsWithEntities t ↔
    ecs.isEntityAlive entity ∧ ecs.tryGetComponent t entity = some component
  withEntities_ascending : ∀ t,
    (ecs.getComponentsWithEntities t).Pairwise fun a b => a.1.id < b.1.id
  entityComponents : ∀ entity ref, ref ∈ ecs.getEntityComponents entity ↔
    ∃ t component, ref = typedRefOf t component false true ∧
      ecs.tryGetComponent t entity = some component

theorem Consistent.indexesAgree {ecs : Ecs T} (hecs : Consistent ecs) : IndexesAgree ecs where
  transposed t id record := by rw [hecs.transposed]
  typeIndex_alive t id h := by
    rw [hecs.transposed] at h
    exact recordByEntity_isSome_alive h
  entityIndex_alive _ _ h := recordByEntity_isSome_alive h
  issued := hecs.issued
  entities := mem_getEntities ecs
  entities_ascending := getEntities_ascending ecs
  withEntities t entity component := by
    rw [mem_getComponentsWithEntities]
    exact ⟨fun h => ⟨alive_of_tryGetComponent hecs.transposed h, h⟩, And.right⟩
  withEntities_ascending := getComponentsWithEntities_ascending ecs
  entityComponents entity ref := by
    constructor
    · intro h
      obtain ⟨t, record, hrecord, href⟩ := (mem_getEntityComponents ecs entity ref).mp h
      rw [← hecs.transposed] at hrecord
      have htag := hecs.tagged t _ record hrecord
      exact ⟨t, record.componentInstance, href.symm.trans htag,
        (tryGetComponent_eq_some ecs t entity _).mpr ⟨record, hrecord, rfl⟩⟩
    · rintro ⟨t, component, rfl, h⟩
      exact (mem_getEntityComponents_iff hecs t entity component).mpr h

/-- After any sequence of calls the indexes agree; a destroyed entity is dead right after the call,
and one that lived and is dead somewhere along the way is dead from there on. -/
theorem run_indexes_agree (operations : List (EcsOperation T))
    (hcount : addedEntities operations < 2 ^ 31 - 1) :
    IndexesAgree (run operations) ∧
    (∀ before after entity, operations = before ++ .destroyEntity entity :: after →
      ¬ (run (before ++ [.destroyEntity entity])).isEntityAlive entity ∧
      ((run before).isEntityAlive entity → ¬ (run operations).isEntityAlive entity)) ∧
    ∀ before middle after entity, operations = before ++ middle ++ after →
      (run before).isEntityAlive entity → ¬ (run (before ++ middle)).isEntityAlive entity →
      ¬ (run operations).isEntityAlive entity := by
  have hstays : ∀ before middle after entity, operations = before ++ middle ++ after →
      (run before).isEntityAlive entity → ¬ (run (before ++ middle)).isEntityAlive entity →
      ¬ (run operations).isEntityAlive entity := by
    rintro before middle after entity rfl halive hdead
    simp only [addedEntities_append] at hcount
    obtain ⟨hbefore, hfirst⟩ := consistent_run before (by omega)
    obtain ⟨hmiddle, hsecond⟩ := consistent_run (before ++ middle)
      (by rw [addedEntities_append]; omega)
    rw [addedEntities_append] at hsecond
    have hissued := hbefore.issued entity halive
    rw [run_append (before ++ middle) after]
    exact dead_foldl after hmiddle (by omega) (by omega) hdead
  refine ⟨(consistent_run operations (by omega)).1.indexesAgree, ?_, hstays⟩
  intro before after entity hsplit
  have hdead : ¬ (run (before ++ [.destroyEntity entity])).isEntityAlive entity := by
    rw [run_append, List.foldl_cons, List.foldl_nil, apply, isEntityAlive_destroyEntity]
    simp
  rw [List.append_cons] at hsplit
  refine ⟨hdead, fun halive => ?_⟩
  exact hstays before [.destroyEntity entity] after entity hsplit halive hdead

theorem run_indexes_agree_destroyed :
    IndexesAgree (run [.addEntity, .addComponentToEntity 7 64 ⟨1⟩, .addEntity,
      .addComponentToEntity 7 128 ⟨9⟩, .destroyEntity ⟨1⟩, .destroyEntity ⟨1⟩] : Ecs Nat) ∧
    ¬ (run [.addEntity, .addComponentToEntity 7 64 ⟨1⟩, .addEntity,
      .addComponentToEntity 7 128 ⟨9⟩, .destroyEntity ⟨1⟩, .destroyEntity ⟨1⟩] :
        Ecs Nat).isEntityAlive ⟨1⟩ := by
  obtain ⟨hagree, hdestroyed, _⟩ := run_indexes_agree (T := Nat) [.addEntity,
    .addComponentToEntity 7 64 ⟨1⟩, .addEntity, .addComponentToEntity 7 128 ⟨9⟩,
    .destroyEntity ⟨1⟩, .destroyEntity ⟨1⟩] (by decide)
  refine ⟨hagree, (hdestroyed [.addEntity, .addComponentToEntity 7 64 ⟨1⟩, .addEntity,
    .addComponentToEntity 7 128 ⟨9⟩] [.destroyEntity ⟨1⟩] ⟨1⟩ rfl).2 ?_⟩
  decide

end Ecs

end PlaygroundEngine
