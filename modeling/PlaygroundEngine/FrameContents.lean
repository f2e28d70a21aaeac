import PlaygroundEngine.Ecs.Consistency
import PlaygroundEngine.RenderExtraction
import Mathlib.Data.List.Forall2

/-!
# What an extracted frame shows

The frame of any reachable store, described by its live entities alone: which of
them are drawn and in what order, and from which of them the camera looks.
-/

namespace PlaygroundEngine

open Library Reflection
set_option autoImplicit false

variable {T : Type} [LinearOrder T] {F : Type} [FloatNumber F]

def World.run (world : World T F) (operations : List (EcsOperation T)) : World T F :=
  { world with ecs := Ecs.run operations }

omit [FloatNumber F] in
/-- A live entity with a resolved mesh and a transform, and the mesh drawn for it. -/
structure Shows (world : World T F) (meshes : MeshCatalog) (entity : Entity)
    (extracted : ExtractedMesh F) : Prop where
  alive : world.ecs.isEntityAlive entity
  valid : extracted.mesh.index ≠ MeshHandle.invalidIndex
  components : ∃ mesh transform, world.ecs.tryGetComponent world.meshType entity = some mesh ∧
    world.ecs.tryGetComponent world.transformType entity = some transform ∧
    extracted = ⟨meshes.find (world.meshComponent mesh).meshPath,
      world.transformComponent transform⟩

structure LooksFrom (world : World T F) (entity : Entity) (view : ExtractedView F) : Prop where
  alive : world.ecs.isEntityAlive entity
  components : ∃ camera transform,
    world.ecs.tryGetComponent world.cameraType entity = some camera ∧
    world.ecs.tryGetComponent world.transformType entity = some transform ∧
    view = toExtractedView (world.transformComponent transform) (world.cameraComponent camera)

/-- The drawn entities are listed once, in the order of their identifiers. -/
structure FrameOf (world : World T F) (meshes : MeshCatalog) (frame : ExtractedFrame F) :
    Prop where
  meshes : ∃ entities : List Entity, entities.Pairwise (fun a b => a.id < b.id) ∧
    (∀ entity, entity ∈ entities ↔ ∃ extracted, Shows world meshes entity extracted) ∧
    List.Forall₂ (Shows world meshes) entities frame.meshes
  view : (∃ entity, LooksFrom world entity frame.view ∧
      ∀ other view, LooksFrom world other view → entity.id ≤ other.id) ∨
    ((∀ entity view, ¬ LooksFrom world entity view) ∧ frame.view = {})

omit [FloatNumber F] in
theorem extractMesh_eq_some (world : World T F) (meshes : MeshCatalog) (entity : Entity)
    (mesh : Address) (extracted : ExtractedMesh F) :
    extractMesh world meshes entity mesh = some extracted ↔
      extracted.mesh.index ≠ MeshHandle.invalidIndex ∧
      ∃ transform, world.ecs.tryGetComponent world.transformType entity = some transform ∧
        extracted = ⟨meshes.find (world.meshComponent mesh).meshPath,
          world.transformComponent transform⟩ := by
  unfold extractMesh
  dsimp only
  split
  · rename_i hinvalid
    refine iff_of_false (Option.some_ne_none _).symm ?_
    rintro ⟨hvalid, transform, _, rfl⟩
    exact hvalid hinvalid
  · rename_i hvalid
    cases world.ecs.tryGetComponent world.transformType entity with
    | none =>
      refine iff_of_false (Option.some_ne_none _).symm ?_
      rintro ⟨_, transform, htransform, _⟩
      exact Option.some_ne_none transform htransform.symm
    | some transform =>
      constructor
      · rintro h
        cases h
        exact ⟨hvalid, transform, rfl, rfl⟩
      · rintro ⟨_, transform', htransform, rfl⟩
        cases htransform
        rfl

def drawnEntities (world : World T F) (meshes : MeshCatalog) : List (Entity × ExtractedMesh F) :=
  (world.ecs.getComponentsWithEntities world.meshType).filterMap fun (entity, mesh) =>
    (extractMesh world meshes entity mesh).map (entity, ·)

theorem map_snd_drawnEntities (world : World T F) (meshes : MeshCatalog)
    (frame : ExtractedFrame F) :
    (extractFrame world meshes frame).meshes = (drawnEntities world meshes).map Prod.snd := by
  rw [drawnEntities, List.map_filterMap]
  simp only [Option.map_map, Function.comp_def, Option.map_id']
  rfl

omit [FloatNumber F] in
theorem drawnEntities_ascending (world : World T F) (meshes : MeshCatalog) :
    ((drawnEntities world meshes).map Prod.fst).Pairwise fun a b => a.id < b.id := by
  rw [List.pairwise_map]
  refine List.Pairwise.filterMap _ ?_
    (Ecs.getComponentsWithEntities_ascending world.ecs world.meshType)
  rintro ⟨a, mesh⟩ ⟨b, mesh'⟩ hlt drawn hdrawn drawn' hdrawn'
  obtain ⟨_, _, rfl⟩ := Option.map_eq_some_iff.mp hdrawn
  obtain ⟨_, _, rfl⟩ := Option.map_eq_some_iff.mp hdrawn'
  exact hlt

omit [FloatNumber F] in
theorem mem_drawnEntities {world : World T F} (hecs : Ecs.Transposed world.ecs)
    (meshes : MeshCatalog) (entity : Entity) (extracted : ExtractedMesh F) :
    (entity, extracted) ∈ drawnEntities world meshes ↔ Shows world meshes entity extracted := by
  rw [drawnEntities, List.mem_filterMap]
  constructor
  · rintro ⟨⟨entity', mesh⟩, hmem, hdrawn⟩
    obtain ⟨extracted', hextracted, heq⟩ := Option.map_eq_some_iff.mp hdrawn
    cases heq
    rw [Ecs.mem_getComponentsWithEntities] at hmem
    obtain ⟨hvalid, transform, htransform, heq⟩ :=
      (extractMesh_eq_some world meshes entity mesh extracted).mp hextracted
    exact ⟨Ecs.alive_of_tryGetComponent hecs hmem, hvalid, mesh, transform, hmem, htransform, heq⟩
  · rintro ⟨_, hvalid, mesh, transform, hmesh, htransform, heq⟩
    refine ⟨(entity, mesh), (Ecs.mem_getComponentsWithEntities _ _ _ _).mpr hmesh, ?_⟩
    dsimp only
    rw [(extractMesh_eq_some world meshes entity mesh extracted).mpr
      ⟨hvalid, transform, htransform, heq⟩]
    rfl

def viewFrom (world : World T F) (entity : Entity) (camera : Address) : Option (ExtractedView F) :=
  (world.ecs.tryGetComponent world.transformType entity).map fun transform =>
    toExtractedView (world.transformComponent transform) (world.cameraComponent camera)

theorem looksFrom_iff {world : World T F} (hecs : Ecs.Transposed world.ecs) (entity : Entity)
    (view : ExtractedView F) : LooksFrom world entity view ↔
      ∃ camera, (entity, camera) ∈ world.ecs.getComponentsWithEntities world.cameraType ∧
        viewFrom world entity camera = some view := by
  constructor
  · rintro ⟨_, camera, transform, hcamera, htransform, rfl⟩
    refine ⟨camera, (Ecs.mem_getComponentsWithEntities _ _ _ _).mpr hcamera, ?_⟩
    rw [viewFrom, htransform]
    rfl
  · rintro ⟨camera, hmem, hview⟩
    rw [Ecs.mem_getComponentsWithEntities] at hmem
    obtain ⟨transform, htransform, rfl⟩ := Option.map_eq_some_iff.mp hview
    exact ⟨Ecs.alive_of_tryGetComponent hecs hmem, camera, transform, hmem, htransform, rfl⟩

theorem extractView_cases {world : World T F} (hecs : Ecs.Transposed world.ecs) :
    (∃ entity, LooksFrom world entity (extractView world) ∧
      ∀ other view, LooksFrom world other view → entity.id ≤ other.id) ∨
    ((∀ entity view, ¬ LooksFrom world entity view) ∧ extractView world = {}) := by
  have hascending := Ecs.getComponentsWithEntities_ascending world.ecs world.cameraType
  have heq : extractView world = ((world.ecs.getComponentsWithEntities world.cameraType).findSome?
      fun (entity, camera) => viewFrom world entity camera).getD {} := rfl
  cases hfind : (world.ecs.getComponentsWithEntities world.cameraType).findSome?
      fun (entity, camera) => viewFrom world entity camera with
  | none =>
    rw [hfind] at heq
    refine Or.inr ⟨?_, heq⟩
    intro entity view hlooks
    obtain ⟨camera, hmem, hview⟩ := (looksFrom_iff hecs entity view).mp hlooks
    have hnone := List.findSome?_eq_none_iff.mp hfind (entity, camera) hmem
    exact Option.some_ne_none view (hview.symm.trans hnone)
  | some view =>
    rw [hfind] at heq
    obtain ⟨before, ⟨entity, camera⟩, after, hsplit, hview, hbefore⟩ :=
      List.findSome?_eq_some_iff.mp hfind
    have hmem : (entity, camera) ∈ world.ecs.getComponentsWithEntities world.cameraType := by
      rw [hsplit]
      exact List.mem_append_right _ List.mem_cons_self
    refine Or.inl ⟨entity, ?_, ?_⟩
    · rw [heq]
      exact (looksFrom_iff hecs entity view).mpr ⟨camera, hmem, hview⟩
    · intro other view' hlooks
      obtain ⟨camera', hother, hview'⟩ := (looksFrom_iff hecs other view').mp hlooks
      rw [hsplit] at hother hascending
      rcases List.mem_append.mp hother with hearlier | hlater
      · exact absurd (hview'.symm.trans (hbefore _ hearlier)) (Option.some_ne_none _)
      rcases List.mem_cons.mp hlater with hsame | hlater
      · cases hsame
        exact Int.le_refl _
      · have hafter := (List.pairwise_cons.mp (List.pairwise_append.mp hascending).2.1).1
        exact (hafter _ hlater).le

theorem frameOf_extractFrame {world : World T F} (hecs : Ecs.Transposed world.ecs)
    (meshes : MeshCatalog) (frame : ExtractedFrame F) :
    FrameOf world meshes (extractFrame world meshes frame) where
  meshes := by
    refine ⟨(drawnEntities world meshes).map Prod.fst, drawnEntities_ascending world meshes,
      ?_, ?_⟩
    · intro entity
      constructor
      · intro h
        obtain ⟨⟨entity', extracted⟩, hmem, rfl⟩ := List.mem_map.mp h
        exact ⟨extracted, (mem_drawnEntities hecs meshes entity' extracted).mp hmem⟩
      · rintro ⟨extracted, hshows⟩
        exact List.mem_map.mpr
          ⟨(entity, extracted), (mem_drawnEntities hecs meshes entity extracted).mpr hshows, rfl⟩
    · rw [map_snd_drawnEntities, List.forall₂_map_left_iff, List.forall₂_map_right_iff,
        List.forall₂_same]
      rintro ⟨entity, extracted⟩ hmem
      exact (mem_drawnEntities hecs meshes entity extracted).mp hmem
  view := extractView_cases hecs

theorem extractFrame_forgets (world : World T F) (meshes : MeshCatalog)
    (frame frame' : ExtractedFrame F) :
    extractFrame world meshes frame = extractFrame world meshes frame' := rfl

/-- The frame of any reachable store, over any previous content, and twice. -/
theorem extractFrame_reachable (world : World T F) (operations : List (EcsOperation T))
    (meshes : MeshCatalog) (frame : ExtractedFrame F) :
    FrameOf (world.run operations) meshes
        (extractFrame (world.run operations) meshes frame) ∧
      extractFrame (world.run operations) meshes
          (extractFrame (world.run operations) meshes frame) =
        extractFrame (world.run operations) meshes frame := by
  have hecs : Ecs.Transposed (world.run operations).ecs := Ecs.transposed_run operations
  exact ⟨frameOf_extractFrame hecs meshes frame, extractFrame_forgets _ meshes _ _⟩

end PlaygroundEngine
