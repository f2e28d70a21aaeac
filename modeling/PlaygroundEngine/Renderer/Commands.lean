import PlaygroundEngine.Library.Dependencies
import PlaygroundEngine.MeshSync
import PlaygroundEngine.Renderer.Objects

/-!
# What the renderer has the queue do

The commands that a frame and a capture are recorded with, and the calls in which they reach the
queue. What ImGui records is one command.
-/

namespace PlaygroundEngine.Renderer.Commands

open Library
set_option autoImplicit false

/-- The images that a frame writes. A rebuild puts others in their places. -/
inductive Target where
  | swapChainImage (index : Nat)
  | multisampleColorImage
  | depthImage
  deriving DecidableEq

inductive Stage where
  | earlyFragmentTests
  | lateFragmentTests
  | colorAttachmentOutput
  | transfer
  deriving DecidableEq

def allCommands : List Stage :=
  [.earlyFragmentTests, .lateFragmentTests, .colorAttachmentOutput, .transfer]

/-- Nothing comes after the bottom of the pipe. -/
def bottomOfPipe : List Stage := []

inductive Access where
  | colorAttachmentRead
  | colorAttachmentWrite
  | depthStencilAttachmentWrite
  | transferRead
  deriving DecidableEq

inductive Layout where
  | undefined
  | colorAttachmentOptimal
  | depthAttachmentOptimal
  | transferSrcOptimal
  | presentSrc
  deriving DecidableEq

instance layoutInhabited : Inhabited Layout := ⟨.undefined⟩

inductive LoadOp where
  | load
  | clear
  deriving DecidableEq

structure ColorAttachment where
  image : Target
  imageLayout : Layout
  loadOp : LoadOp
  /-- The image that the samples are resolved into, and its layout. -/
  resolve : Option (Target × Layout) := none

structure DepthAttachment where
  image : Target
  imageLayout : Layout
  loadOp : LoadOp

structure RenderingInfo where
  extent : Extent2D
  color : ColorAttachment
  depth : Option DepthAttachment := none

abbrev VkBuffer := Nat

structure GpuMesh where
  vertexBuffer : VkBuffer
  indexBuffer : VkBuffer
  indexCount : UInt32

inductive Command (F : Type) where
  | pipelineBarrier (image : Target) (barrier : Barrier Stage Access Layout)
  | beginRendering (info : RenderingInfo)
  | bindPipeline
  | setViewport (extent : Extent2D)
  | setScissor (extent : Extent2D)
  | bindDescriptorSets (frame : Nat)
  | pushConstants (localToWorld : Matrix4x4 F)
  | bindVertexBuffers (buffer : VkBuffer)
  | bindIndexBuffer (buffer : VkBuffer)
  | drawIndexed (indexCount : UInt32)
  /-- The overlay's draws, with everything they bind. -/
  | renderDrawData
  | endRendering
  | copyImageToBuffer (image : Target) (layout : Layout) (extent : Extent2D)
  | copyBuffer

def transitionImageLayout {F : Type} (image : Target) (oldLayout newLayout : Layout)
    (srcAccesses dstAccesses : List Access) (srcStages dstStages : List Stage) : Command F :=
  .pipelineBarrier image ⟨srcStages, srcAccesses, dstStages, dstAccesses, oldLayout, newLayout⟩

/-- The renderer's members, as far as a frame reads them. -/
structure FrameRenderer where
  swapChainExtent : Extent2D
  swapChainSupportsTransferSource : Bool
  swapChainSurfaceFormat : SurfaceFormat
  meshes : List GpuMesh := []
  debugUiOverlayEnabled : Bool
  frameIndex : Nat := 0
  framebufferResized : Bool := false
  pendingCapture : Bool := false

section Recording
variable {F : Type} [FloatNumber F] (toMatrix : Transform F → Matrix4x4 F)

/-- A handle that names no mesh of this renderer is passed over. -/
def recordMesh (meshes : List GpuMesh) (extracted : ExtractedMesh F) : List (Command F) :=
  if extracted.mesh.index = MeshHandle.invalidIndex ∨
      meshes.length < extracted.mesh.index.toNat then []
  else
    match meshes[extracted.mesh.index.toNat - 1]? with
    | none => []
    | some gpuMesh =>
      [.pushConstants (toMatrix extracted.placement), .bindVertexBuffers gpuMesh.vertexBuffer,
        .bindIndexBuffer gpuMesh.indexBuffer, .drawIndexed gpuMesh.indexCount]

def recordDebugUiOverlay (renderer : FrameRenderer) (imageIndex : Nat) : List (Command F) :=
  [transitionImageLayout (.swapChainImage imageIndex) .colorAttachmentOptimal
      .colorAttachmentOptimal [.colorAttachmentWrite]
      [.colorAttachmentRead, .colorAttachmentWrite] [.colorAttachmentOutput]
      [.colorAttachmentOutput],
    .beginRendering {
      extent := renderer.swapChainExtent
      color := ⟨.swapChainImage imageIndex, .colorAttachmentOptimal, .load, none⟩ },
    .renderDrawData,
    .endRendering]

def recordTransitions (imageIndex : Nat) : List (Command F) :=
  [transitionImageLayout (.swapChainImage imageIndex) .undefined .colorAttachmentOptimal []
      [.colorAttachmentWrite] [.colorAttachmentOutput] [.colorAttachmentOutput],
    transitionImageLayout .multisampleColorImage .undefined .colorAttachmentOptimal
      [.colorAttachmentWrite] [.colorAttachmentWrite] [.colorAttachmentOutput]
      [.colorAttachmentOutput],
    transitionImageLayout .depthImage .undefined .depthAttachmentOptimal
      [.depthStencilAttachmentWrite] [.depthStencilAttachmentWrite]
      [.earlyFragmentTests, .lateFragmentTests] [.earlyFragmentTests, .lateFragmentTests]]

def recordScene (renderer : FrameRenderer) (frame : ExtractedFrame F) (imageIndex : Nat) :
    List (Command F) :=
  [.beginRendering {
      extent := renderer.swapChainExtent
      color := ⟨.multisampleColorImage, .colorAttachmentOptimal, .clear,
        some (.swapChainImage imageIndex, .colorAttachmentOptimal)⟩
      depth := some ⟨.depthImage, .depthAttachmentOptimal, .clear⟩ },
    .bindPipeline, .setViewport renderer.swapChainExtent, .setScissor renderer.swapChainExtent,
    .bindDescriptorSets renderer.frameIndex] ++
  frame.meshes.flatMap (recordMesh toMatrix renderer.meshes) ++ [.endRendering]

def recordCommandBuffer (renderer : FrameRenderer) (frame : ExtractedFrame F) (imageIndex : Nat)
    (drawData : Bool) : List (Command F) :=
  recordTransitions imageIndex ++ recordScene toMatrix renderer frame imageIndex ++
    (if renderer.debugUiOverlayEnabled = true ∧ drawData = true then
      recordDebugUiOverlay renderer imageIndex else []) ++
    [transitionImageLayout (.swapChainImage imageIndex) .colorAttachmentOptimal .presentSrc
      [.colorAttachmentWrite] [] [.colorAttachmentOutput] bottomOfPipe]

omit [FloatNumber F] in
def readImageToHost (image : Target) (currentLayout : Layout) (extent : Extent2D) :
    List (Command F) :=
  [transitionImageLayout image currentLayout .transferSrcOptimal [] [.transferRead] allCommands
      [.transfer],
    .copyImageToBuffer image .transferSrcOptimal extent,
    transitionImageLayout image .transferSrcOptimal currentLayout [.transferRead] [] [.transfer]
      allCommands]

end Recording

inductive Call (F : Type) where
  /-- The image whose acquisition the submission waits for, with the stages that do wait, and the
  image whose semaphore it signals. -/
  | submitted (waits : Option (Target × List Stage)) (commands : List (Command F))
    (signals : Option Nat)
  | waitedIdle
  /-- The wait after a submission failed, which may still be under way. -/
  | waitFailed
  /-- Once the semaphore of this image is signalled. -/
  | presented (image : Target) (waits : Nat)
  /-- A new image in this place; one of a swap chain is not ours before it is acquired. -/
  | created (image : Target) (ours : Bool)

/-- How far commands that are recorded for one submission come. -/
inductive SingleTimeAnswer where
  | notSubmitted
  | submitted (waited : Bool)
  deriving DecidableEq

def singleTimeCommands {F : Type} (commands : List (Command F)) :
    SingleTimeAnswer → List (Call F)
  | .notSubmitted => []
  | .submitted waited =>
    [.submitted none commands none, if waited then .waitedIdle else .waitFailed]

/-- The copies of the two buffers; the second is made if the first one worked. -/
structure MeshAnswers where
  mesh : GpuMesh
  vertexBuffer : SingleTimeAnswer
  indexBuffer : SingleTimeAnswer

def acquireMesh {F : Type} (answers : MeshAnswers) (renderer : FrameRenderer) :
    List (Call F) × FrameRenderer :=
  let vertices := singleTimeCommands [.copyBuffer] answers.vertexBuffer
  if answers.vertexBuffer ≠ .submitted true then (vertices, renderer)
  else
    let calls := vertices ++ singleTimeCommands [.copyBuffer] answers.indexBuffer
    if answers.indexBuffer ≠ .submitted true then (calls, renderer)
    else (calls, { renderer with meshes := renderer.meshes ++ [answers.mesh] })

/-- How far a rebuild comes, and what the new swap chain is like. -/
structure RecreateAnswers where
  waited : Bool
  swapChain : Bool
  images : Nat
  extent : Extent2D
  supportsTransferSource : Bool
  multisampleColor : Bool
  depth : Bool
  semaphores : Bool

def recreateSwapChain {F : Type} (answers : RecreateAnswers) (renderer : FrameRenderer) :
    List (Call F) × FrameRenderer × Bool :=
  if answers.waited = false then ([], renderer, false)
  else if answers.swapChain = false then ([.waitedIdle], renderer, false)
  else
    let renderer := { renderer with
      swapChainExtent := answers.extent
      swapChainSupportsTransferSource := answers.supportsTransferSource }
    let calls := .waitedIdle ::
      (List.range answers.images).map fun index => .created (.swapChainImage index) false
    if answers.multisampleColor = false then (calls, renderer, false)
    else if answers.depth = false then
      (calls ++ [.created .multisampleColorImage true], renderer, false)
    else
      (calls ++ [.created .multisampleColorImage true, .created .depthImage true], renderer,
        answers.semaphores)

structure FrameAnswers where
  framebufferSize : FramebufferSize
  waited : Bool
  acquired : VkResult × Nat
  /-- The resets, the beginning and the end of the recording, and the submission. -/
  submitted : Bool
  waitedIdle : Bool
  readback : SingleTimeAnswer
  presented : VkResult
  recreated : RecreateAnswers

section Frames
variable {F : Type} [FloatNumber F] (toMatrix : Transform F → Matrix4x4 F)

omit [FloatNumber F] in
/-- What a pending request has the queue do. What becomes of the pixels is no matter of the queue,
and neither is whether the capture works. -/
def captureCalls (answers : FrameAnswers) (imageIndex : Nat) (renderer : FrameRenderer) :
    List (Call F) :=
  if renderer.pendingCapture = false ∨ answers.waitedIdle = false then []
  else if renderer.swapChainSupportsTransferSource = false ∨
      renderer.swapChainSurfaceFormat = .other then [.waitedIdle]
  else .waitedIdle :: singleTimeCommands
    (readImageToHost (.swapChainImage imageIndex) .presentSrc renderer.swapChainExtent)
    answers.readback

omit [FloatNumber F] in
def presentFrame (answers : FrameAnswers) (imageIndex : Nat) (renderer : FrameRenderer) :
    List (Call F) × FrameRenderer × Bool :=
  let next := { renderer with frameIndex := (renderer.frameIndex + 1) % maxFramesInFlight }
  if answers.presented = .outOfDate ∨ answers.presented = .suboptimal ∨
      renderer.framebufferResized = true then
    let rest := recreateSwapChain answers.recreated { next with framebufferResized := false }
    (.presented (.swapChainImage imageIndex) imageIndex :: rest.1, rest.2)
  else ([.presented (.swapChainImage imageIndex) imageIndex], next, answers.presented = .success)

/-- The calls of a frame, the renderer after it, and whether the loop goes on. -/
def drawFrame (answers : FrameAnswers) (frame : ExtractedFrame F) (drawData : Bool)
    (renderer : FrameRenderer) : List (Call F) × FrameRenderer × Bool :=
  if answers.framebufferSize.width = 0 ∨ answers.framebufferSize.height = 0 then
    ([], renderer, true)
  else if answers.waited = false then ([], renderer, false)
  else if answers.acquired.1 = .outOfDate then recreateSwapChain answers.recreated renderer
  else if ¬ (answers.acquired.1 = .success ∨ answers.acquired.1 = .suboptimal) then
    ([], renderer, false)
  else if answers.submitted = false then ([], renderer, false)
  else
    let imageIndex := answers.acquired.2
    let submitted := .submitted (some (.swapChainImage imageIndex, [.colorAttachmentOutput]))
      (recordCommandBuffer toMatrix renderer frame imageIndex drawData) (some imageIndex)
    let presented := presentFrame answers imageIndex { renderer with pendingCapture := false }
    (submitted :: captureCalls answers imageIndex renderer ++ presented.1, presented.2)

/-- The renderer's calls since it was created. A frame that ends the loop comes last. -/
inductive Run : List (Call F) → FrameRenderer → Bool → Prop where
  | created (extent : Extent2D) (transferSource : Bool) (format : SurfaceFormat)
    (overlay : Bool) : Run [] {
      swapChainExtent := extent
      swapChainSupportsTransferSource := transferSource
      swapChainSurfaceFormat := format
      debugUiOverlayEnabled := overlay } true
  | resized {calls : List (Call F)} {renderer : FrameRenderer} : Run calls renderer true →
    Run calls { renderer with framebufferResized := true } true
  | requested {calls : List (Call F)} {renderer : FrameRenderer} : Run calls renderer true →
    Run calls { renderer with pendingCapture := true } true
  | acquiredMesh {calls : List (Call F)} {renderer : FrameRenderer} (answers : MeshAnswers) :
    Run calls renderer true →
    Run (calls ++ (acquireMesh answers renderer).1) (acquireMesh (F := F) answers renderer).2 true
  | drawn {calls : List (Call F)} {renderer : FrameRenderer} (answers : FrameAnswers)
    (frame : ExtractedFrame F) (drawData : Bool) : Run calls renderer true →
    Run (calls ++ (drawFrame toMatrix answers frame drawData renderer).1)
      (drawFrame toMatrix answers frame drawData renderer).2.1
      (drawFrame toMatrix answers frame drawData renderer).2.2

end Frames

end PlaygroundEngine.Renderer.Commands
