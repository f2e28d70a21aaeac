import PlaygroundEngine.Renderer.Commands

/-!
# What a command buffer draws

The commands of one buffer by what they find bound: a draw is a draw only inside of a rendering and
with everything bound that it reads, and barriers and copies stand outside of one.
-/

namespace PlaygroundEngine.Renderer.Commands

open Library
set_option autoImplicit false

section Semantics
variable {F : Type}

structure Bindings (F : Type) where
  rendering : Option RenderingInfo := none
  pipeline : Bool := false
  viewport : Option Extent2D := none
  scissor : Option Extent2D := none
  descriptorSet : Option Nat := none
  localToWorld : Option (Matrix4x4 F) := none
  vertexBuffer : Option VkBuffer := none
  indexBuffer : Option VkBuffer := none

structure Draw (F : Type) where
  rendering : RenderingInfo
  viewport : Extent2D
  scissor : Extent2D
  descriptorSet : Nat
  localToWorld : Matrix4x4 F
  vertexBuffer : VkBuffer
  indexBuffer : VkBuffer
  indexCount : UInt32

/-- None if something is missing that the draw needs. -/
def Bindings.draw (bindings : Bindings F) (indexCount : UInt32) : Option (Draw F) := do
  let rendering ← bindings.rendering
  guard bindings.pipeline
  let viewport ← bindings.viewport
  let scissor ← bindings.scissor
  let descriptorSet ← bindings.descriptorSet
  let localToWorld ← bindings.localToWorld
  let vertexBuffer ← bindings.vertexBuffer
  let indexBuffer ← bindings.indexBuffer
  return ⟨rendering, viewport, scissor, descriptorSet, localToWorld, vertexBuffer, indexBuffer,
    indexCount⟩

/-- One command, with the draw if it is one. None if it may not stand here. -/
def Command.record (bindings : Bindings F) : Command F → Option (Bindings F × List (Draw F))
  | .pipelineBarrier _ _ | .copyImageToBuffer _ _ _ | .copyBuffer =>
    if bindings.rendering.isNone then some (bindings, []) else none
  | .beginRendering info =>
    if bindings.rendering.isNone then some ({ bindings with rendering := some info }, []) else none
  | .bindPipeline => some ({ bindings with pipeline := true }, [])
  | .setViewport extent => some ({ bindings with viewport := some extent }, [])
  | .setScissor extent => some ({ bindings with scissor := some extent }, [])
  | .bindDescriptorSets frame => some ({ bindings with descriptorSet := some frame }, [])
  | .pushConstants localToWorld => some ({ bindings with localToWorld := some localToWorld }, [])
  | .bindVertexBuffers buffer => some ({ bindings with vertexBuffer := some buffer }, [])
  | .bindIndexBuffer buffer => some ({ bindings with indexBuffer := some buffer }, [])
  | .drawIndexed indexCount => do return (bindings, [← bindings.draw indexCount])
  -- What was bound before is no longer.
  | .renderDrawData =>
    bindings.rendering.bind fun info => some ({ rendering := some info }, [])
  | .endRendering =>
    if bindings.rendering.isSome then some ({ bindings with rendering := none }, []) else none

def record : List (Command F) → Bindings F → Option (Bindings F × List (Draw F))
  | [], bindings => some (bindings, [])
  | command :: commands, bindings => do
    let (bindings, draws) ← command.record bindings
    let (bindings, later) ← record commands bindings
    return (bindings, draws ++ later)

/-- The draws of a whole command buffer, which ends outside of any rendering. -/
def drawsOf (commands : List (Command F)) : Option (List (Draw F)) := do
  let (bindings, draws) ← record commands {}
  guard bindings.rendering.isNone
  return draws

theorem record_append (first second : List (Command F)) (bindings : Bindings F) :
    record (first ++ second) bindings = (record first bindings).bind fun between =>
      (record second between.1).map fun after => (after.1, between.2 ++ after.2) := by
  induction first generalizing bindings with
  | nil => simp [record]
  | cons command first ih =>
    rw [List.cons_append, record, record]
    cases command.record bindings with
    | none => rfl
    | some result =>
      simp only [Option.bind_eq_bind, Option.bind_some, ih]
      cases record first result.1 with
      | none => rfl
      | some between => cases hsecond : record second between.1 <;> simp [hsecond]

/-- What each mesh of the scene is drawn with, apart from what is its own. -/
structure SceneBindings where
  rendering : RenderingInfo
  viewport : Extent2D
  scissor : Extent2D
  descriptorSet : Nat

def SceneBindings.draw (scene : SceneBindings) (toMatrix : Transform F → Matrix4x4 F)
    (mesh : GpuMesh × Transform F) : Draw F :=
  ⟨scene.rendering, scene.viewport, scene.scissor, scene.descriptorSet, toMatrix mesh.2,
    mesh.1.vertexBuffer, mesh.1.indexBuffer, mesh.1.indexCount⟩

/-- All meshes of the scene share these. -/
def SceneBindings.Holds (scene : SceneBindings) (bindings : Bindings F) : Prop :=
  bindings.rendering = some scene.rendering ∧ bindings.pipeline = true ∧
    bindings.viewport = some scene.viewport ∧ bindings.scissor = some scene.scissor ∧
    bindings.descriptorSet = some scene.descriptorSet

end Semantics

section Scene
variable {F : Type} (toMatrix : Transform F → Matrix4x4 F)

def namedMesh (meshes : List GpuMesh) (extracted : ExtractedMesh F) :
    Option (GpuMesh × Transform F) :=
  if extracted.mesh.index = MeshHandle.invalidIndex ∨
      meshes.length < extracted.mesh.index.toNat then none
  else (meshes[extracted.mesh.index.toNat - 1]?).map (·, extracted.placement)

theorem record_recordMesh {scene : SceneBindings} {bindings : Bindings F}
    (h : scene.Holds bindings) (meshes : List GpuMesh) (extracted : ExtractedMesh F) :
    ∃ after, scene.Holds after ∧ record (recordMesh toMatrix meshes extracted) bindings =
      some (after, ((namedMesh meshes extracted).map (scene.draw toMatrix)).toList) := by
  unfold recordMesh namedMesh
  split_ifs with hskipped
  · exact ⟨bindings, h, rfl⟩
  · cases meshes[extracted.mesh.index.toNat - 1]? with
    | none => exact ⟨bindings, h, rfl⟩
    | some gpuMesh =>
      obtain ⟨hrendering, hpipeline, hviewport, hscissor, hset⟩ := h
      refine ⟨{ bindings with
        localToWorld := some (toMatrix extracted.placement)
        vertexBuffer := some gpuMesh.vertexBuffer
        indexBuffer := some gpuMesh.indexBuffer }, ⟨hrendering, hpipeline, hviewport, hscissor,
          hset⟩, ?_⟩
      simp [record, Command.record, Bindings.draw, hrendering, hpipeline, hviewport, hscissor,
        hset, SceneBindings.draw, guard]

theorem record_recordMeshes {scene : SceneBindings} (meshes : List GpuMesh)
    (extracted : List (ExtractedMesh F)) {bindings : Bindings F} (h : scene.Holds bindings) :
    ∃ after, scene.Holds after ∧
      record (extracted.flatMap (recordMesh toMatrix meshes)) bindings =
        some (after, (extracted.filterMap (namedMesh meshes)).map (scene.draw toMatrix)) := by
  induction extracted generalizing bindings with
  | nil => exact ⟨bindings, h, rfl⟩
  | cons first rest ih =>
    obtain ⟨between, hbetween, hfirst⟩ := record_recordMesh toMatrix h meshes first
    obtain ⟨after, hafter, hrest⟩ := ih hbetween
    refine ⟨after, hafter, ?_⟩
    rw [List.flatMap_cons, record_append, hfirst, Option.bind_some, hrest, List.filterMap_cons]
    cases namedMesh meshes first <;> rfl

def frameScene (renderer : FrameRenderer) (imageIndex : Nat) : SceneBindings where
  rendering := {
    extent := renderer.swapChainExtent
    color := ⟨.multisampleColorImage, .colorAttachmentOptimal, .clear,
      some (.swapChainImage imageIndex, .colorAttachmentOptimal)⟩
    depth := some ⟨.depthImage, .depthAttachmentOptimal, .clear⟩ }
  viewport := renderer.swapChainExtent
  scissor := renderer.swapChainExtent
  descriptorSet := renderer.frameIndex

theorem record_recordScene [FloatNumber F] (renderer : FrameRenderer) (frame : ExtractedFrame F)
    (imageIndex : Nat) : ∃ after, after.rendering = none ∧
      record (recordScene toMatrix renderer frame imageIndex) {} =
        some (after, (frame.meshes.filterMap (namedMesh renderer.meshes)).map
          ((frameScene renderer imageIndex).draw toMatrix)) := by
  have hbound : (frameScene renderer imageIndex).Holds ({
      rendering := some (frameScene renderer imageIndex).rendering
      pipeline := true
      viewport := some renderer.swapChainExtent
      scissor := some renderer.swapChainExtent
      descriptorSet := some renderer.frameIndex } : Bindings F) := ⟨rfl, rfl, rfl, rfl, rfl⟩
  obtain ⟨between, hbetween, hmeshes⟩ :=
    record_recordMeshes toMatrix renderer.meshes frame.meshes hbound
  have hsome : between.rendering.isSome = true := by rw [hbetween.1]; rfl
  refine ⟨{ between with rendering := none }, rfl, ?_⟩
  have hdrawn := record_append (frame.meshes.flatMap (recordMesh toMatrix renderer.meshes))
    [.endRendering] _ |>.trans (congrArg (Option.bind · _) hmeshes)
  rw [recordScene, List.append_assoc, record_append]
  refine (congrArg (Option.map fun after => (after.1, [] ++ after.2)) hdrawn).trans ?_
  simp [record, Command.record, hsome]

theorem record_recordDebugUiOverlay (renderer : FrameRenderer) (imageIndex : Nat)
    {bindings : Bindings F} (h : bindings.rendering = none) :
    ∃ after, after.rendering = none ∧
      record (recordDebugUiOverlay renderer imageIndex) bindings = some (after, []) := by
  refine ⟨{}, rfl, ?_⟩
  simp [recordDebugUiOverlay, transitionImageLayout, record, Command.record, h]

/-- A frame draws the meshes that its handles name, one after the other. -/
theorem drawsOf_recordCommandBuffer [FloatNumber F] (renderer : FrameRenderer)
    (frame : ExtractedFrame F) (imageIndex : Nat) (drawData : Bool) :
    drawsOf (recordCommandBuffer toMatrix renderer frame imageIndex drawData) =
      some ((recordMeshes { meshes := renderer.meshes } frame).map
        ((frameScene renderer imageIndex).draw toMatrix)) := by
  obtain ⟨drawn, hdrawn, hscene⟩ := record_recordScene toMatrix renderer frame imageIndex
  have hmain : record (recordTransitions imageIndex ++
      recordScene toMatrix renderer frame imageIndex) {} =
        some (drawn, (recordMeshes { meshes := renderer.meshes } frame).map
          ((frameScene renderer imageIndex).draw toMatrix)) := by
    rw [record_append]
    change (record (recordScene toMatrix renderer frame imageIndex) {}).map _ = _
    rw [hscene]
    rfl
  obtain ⟨overlaid, hoverlaid, hoverlay⟩ :
      ∃ after : Bindings F, after.rendering = none ∧
        record (if renderer.debugUiOverlayEnabled = true ∧ drawData = true then
          recordDebugUiOverlay renderer imageIndex else []) drawn = some (after, []) := by
    split_ifs
    · exact record_recordDebugUiOverlay renderer imageIndex hdrawn
    · exact ⟨drawn, hdrawn, rfl⟩
  unfold drawsOf recordCommandBuffer
  rw [record_append, record_append, hmain, Option.bind_some, hoverlay]
  simp [record, Command.record, transitionImageLayout, hoverlaid]

end Scene

end PlaygroundEngine.Renderer.Commands
