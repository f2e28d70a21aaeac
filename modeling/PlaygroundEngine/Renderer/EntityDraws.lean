import PlaygroundEngine.FrameContents
import PlaygroundEngine.Renderer.CommandDraws

/-!
# From entities to draws

What the last frame of a run draws, told by the entities alone: through the catalog, the extraction
and the commands, each entity is drawn with the buffers that were loaded for its own mesh.
-/

namespace PlaygroundEngine.Renderer.Commands

open Library
set_option autoImplicit false

variable {T : Type} [LinearOrder T] {F : Type}

/-- A live entity with a transform, and with a mesh that could be loaded, and its draw. -/
structure DrawnFor (world : World T F) (table : MeshTable GpuMesh) (scene : SceneBindings)
    (toMatrix : Transform F → Matrix4x4 F) (entity : Entity) (draw : Draw F) : Prop where
  alive : world.ecs.isEntityAlive entity
  drawn : ∃ mesh transform gpuMesh,
    world.ecs.tryGetComponent world.meshType entity = some mesh ∧
    world.ecs.tryGetComponent world.transformType entity = some transform ∧
    ((world.meshComponent mesh).meshPath, gpuMesh) ∈ table.loaded ∧
    draw = scene.draw toMatrix (gpuMesh, world.transformComponent transform)

variable {world : World T F} {catalog : MeshCatalog} {table : MeshTable GpuMesh}
  (scene : SceneBindings) (toMatrix : Transform F → Matrix4x4 F)

/-- A handle in a frame is that of a mesh that was loaded. -/
theorem namedMesh_of_shows (htracks : Tracks catalog table)
    (hroom : table.loaded.length ≤ 2 ^ 32) {entity : Entity} {extracted : ExtractedMesh F}
    (h : Shows world catalog entity extracted) :
    ∃ gpuMesh, namedMesh table.meshes extracted = some (gpuMesh, extracted.placement) ∧
      DrawnFor world table scene toMatrix entity
        (scene.draw toMatrix (gpuMesh, extracted.placement)) := by
  obtain ⟨mesh, transform, hmesh, htransform, rfl⟩ := h.components
  obtain ⟨gpuMesh, hloaded, hnamed⟩ := htracks.names hroom h.valid
  have hbound := htracks.index_le (world.meshComponent mesh).meshPath
  refine ⟨gpuMesh, ?_, h.alive, mesh, transform, gpuMesh, hmesh, htransform,
    List.mem_of_getElem? hloaded, rfl⟩
  rw [namedMesh, if_neg, hnamed]
  · rfl
  · rintro (hinvalid | hbeyond)
    · exact h.valid hinvalid
    · exact absurd hbound (Nat.not_le_of_lt hbeyond)

theorem drawnFor_filterMap (htracks : Tracks catalog table)
    (hroom : table.loaded.length ≤ 2 ^ 32) {entities : List Entity}
    {extracted : List (ExtractedMesh F)}
    (h : List.Forall₂ (Shows world catalog) entities extracted) :
    List.Forall₂ (DrawnFor world table scene toMatrix) entities
      ((extracted.filterMap (namedMesh table.meshes)).map (scene.draw toMatrix)) := by
  induction h with
  | nil => exact .nil
  | cons hfirst _ ih =>
    obtain ⟨gpuMesh, hnamed, hdrawn⟩ := namedMesh_of_shows scene toMatrix htracks hroom hfirst
    rw [List.filterMap_cons, hnamed]
    exact .cons hdrawn ih

theorem shows_of_drawnFor (htracks : Tracks catalog table)
    (hroom : table.loaded.length < 2 ^ 32) {entity : Entity} {draw : Draw F}
    (h : DrawnFor world table scene toMatrix entity draw) :
    ∃ extracted, Shows world catalog entity extracted := by
  obtain ⟨mesh, transform, gpuMesh, hmesh, htransform, hloaded, _⟩ := h.drawn
  obtain ⟨k, hk⟩ := List.getElem?_of_mem hloaded
  have hlength := (List.getElem?_eq_some_iff.mp hk).1
  have hvalid : (catalog.find (world.meshComponent mesh).meshPath).index ≠
      MeshHandle.invalidIndex := by
    rw [htracks.handle k _ _ hk]
    intro hzero
    have htoNat := congrArg UInt32.toNat hzero
    rw [UInt32.toNat_ofNat'] at htoNat
    change (k + 1) % 2 ^ 32 = 0 at htoNat
    omega
  exact ⟨⟨_, _⟩, h.alive, hvalid, mesh, transform, hmesh, htransform, rfl⟩

/-- In a run with room for its loads, the last frame's command buffer draws each entity that has a
transform and a mesh that could be loaded, once and in the order of their identifiers, and no
other scene mesh. -/
theorem entities_drawn [FloatNumber F] (load : Nat → Text → Option GpuMesh)
    (before : List (World T F)) (world : World T F) (operations : List (EcsOperation T))
    (renderer : FrameRenderer) (imageIndex : Nat) (drawData : Bool)
    (hroom : (runMeshes load (before ++ [world.run operations]) :
      MeshStores GpuMesh F).table.loaded.length < 2 ^ 32) :
    ∃ entities draws, entities.Pairwise (fun a b => a.id < b.id) ∧
      drawsOf (recordCommandBuffer toMatrix
        { renderer with
          meshes := (runMeshes load (before ++ [world.run operations]) :
            MeshStores GpuMesh F).table.meshes }
        (runMeshes load (before ++ [world.run operations]) : MeshStores GpuMesh F).frame
        imageIndex drawData) = some draws ∧
      List.Forall₂ (DrawnFor (world.run operations)
        (runMeshes load (before ++ [world.run operations]) : MeshStores GpuMesh F).table
        (frameScene renderer imageIndex) toMatrix) entities draws ∧
      ∀ entity, entity ∈ entities ↔ ∃ draw, DrawnFor (world.run operations)
        (runMeshes load (before ++ [world.run operations]) : MeshStores GpuMesh F).table
        (frameScene renderer imageIndex) toMatrix entity draw := by
  have htracks := tracks_runMeshes (F := F) load (before ++ [world.run operations])
  have hframe : FrameOf (world.run operations)
      (runMeshes load (before ++ [world.run operations]) : MeshStores GpuMesh F).catalog
      (runMeshes load (before ++ [world.run operations])).frame := by
    rw [runMeshes_concat]
    exact frameOf_extractFrame (Ecs.transposed_run operations) _ _
  obtain ⟨entities, hascending, hentities, hshows⟩ := hframe.meshes
  refine ⟨entities, _, hascending, drawsOf_recordCommandBuffer .., ?_, ?_⟩
  · exact drawnFor_filterMap _ toMatrix htracks hroom.le hshows
  · intro entity
    rw [hentities]
    constructor
    · rintro ⟨extracted, hextracted⟩
      obtain ⟨gpuMesh, _, hdrawn⟩ := namedMesh_of_shows (frameScene renderer imageIndex) toMatrix
        htracks hroom.le hextracted
      exact ⟨_, hdrawn⟩
    · rintro ⟨draw, hdrawn⟩
      exact shows_of_drawnFor _ toMatrix htracks hroom hdrawn

def pillarWorld : World Nat Rat :=
  (numberedWorld 0).run
    [.addEntity, .addComponentToEntity 0 8 ⟨1⟩, .addComponentToEntity 1 16 ⟨1⟩]

def pillarStores : MeshStores GpuMesh Rat := runMeshes (fun _ _ => some ⟨1, 2, 36⟩) [pillarWorld]

def pillarRenderer : FrameRenderer where
  swapChainExtent := ⟨800, 600⟩
  swapChainSupportsTransferSource := true
  swapChainSurfaceFormat := .b8g8r8a8
  meshes := pillarStores.table.meshes
  debugUiOverlayEnabled := false

theorem entities_drawn_pillar :
    ∃ entities draws, entities.Pairwise (fun a b => a.id < b.id) ∧
      drawsOf (recordCommandBuffer Transform.toMatrix pillarRenderer pillarStores.frame 0 false) =
        some draws ∧
      List.Forall₂ (DrawnFor pillarWorld pillarStores.table (frameScene pillarRenderer 0)
        Transform.toMatrix) entities draws ∧
      ∀ entity, entity ∈ entities ↔ ∃ draw, DrawnFor pillarWorld pillarStores.table
        (frameScene pillarRenderer 0) Transform.toMatrix entity draw :=
  entities_drawn Transform.toMatrix (fun _ _ => some ⟨1, 2, 36⟩) [] (numberedWorld 0)
    [.addEntity, .addComponentToEntity 0 8 ⟨1⟩, .addComponentToEntity 1 16 ⟨1⟩] pillarRenderer 0
    false (by decide)

end PlaygroundEngine.Renderer.Commands
