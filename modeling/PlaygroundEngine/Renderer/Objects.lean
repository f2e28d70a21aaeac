import PlaygroundEngine.Library.Lifetimes
import PlaygroundEngine.Renderer.SwapChain
import Mathlib.Data.List.Range

/-!
# The lifetimes of the renderer's objects

Which Vulkan objects the renderer makes and gives back, call by call, over its whole life. Objects
that a rebuild of the swap chain replaces carry the number of the rebuild they were made in.
-/

namespace PlaygroundEngine.Renderer

open Library
set_option autoImplicit false

/-- A buffer or an image stands for its memory too. -/
inductive VulkanObject where
  | vulkanInstance
  | debugMessenger
  | surface
  | logicalDevice
  | swapChain (rebuild : Nat)
  | swapChainImageView (rebuild index : Nat)
  | multisampleColorImage (rebuild : Nat)
  | multisampleColorImageView (rebuild : Nat)
  | depthImage (rebuild : Nat)
  | depthImageView (rebuild : Nat)
  | descriptorSetLayout
  | pipelineLayout
  | graphicsPipeline
  | commandPool
  | textureImage
  | textureImageView
  | textureSampler
  | uniformBuffer (frame : Nat)
  | descriptorPool
  | descriptorSet (frame : Nat)
  | commandBuffer (frame : Nat)
  | renderFinishedSemaphore (rebuild index : Nat)
  | presentCompleteSemaphore (frame : Nat)
  | inFlightFence (frame : Nat)
  | vertexBuffer (mesh : Nat)
  | indexBuffer (mesh : Nat)
  | shaderModule
  | stagingBuffer
  | readbackBuffer
  | singleTimeCommands
  /-- What the overlay's backend has made for itself. -/
  | overlayBackend
  deriving DecidableEq

/-- What has to exist as long as the object does: its parent, and what it shows a part of. -/
def VulkanObject.needs : VulkanObject → List VulkanObject
  | vulkanInstance => []
  | debugMessenger | surface | logicalDevice => [vulkanInstance]
  | swapChain _ => [logicalDevice, surface]
  | swapChainImageView rebuild _ => [logicalDevice, swapChain rebuild]
  | multisampleColorImageView rebuild => [logicalDevice, multisampleColorImage rebuild]
  | depthImageView rebuild => [logicalDevice, depthImage rebuild]
  | pipelineLayout => [logicalDevice, descriptorSetLayout]
  | graphicsPipeline => [logicalDevice, pipelineLayout]
  | textureImageView => [logicalDevice, textureImage]
  | descriptorSet _ => [logicalDevice, descriptorPool]
  | commandBuffer _ | singleTimeCommands => [logicalDevice, commandPool]
  | _ => [logicalDevice]

def Needs (object other : VulkanObject) : Prop := other ∈ object.needs

abbrev ObjectCall := Lifetime VulkanObject

/-- What the renderer's members hold, as far as it changes. -/
structure HeldObjects where
  /-- Rebuilds that were begun. -/
  rebuilds : Nat := 0
  swapChain : Option Nat := some 0
  swapChainImageViews : Nat
  multisampleColor : Nat := 0
  depth : Nat := 0
  renderFinished : Nat := 0
  renderFinishedSemaphores : Nat
  meshes : Nat := 0
  frameIndex : Nat := 0
  debugUiOverlayEnabled : Bool := false

def swapChainObjects (rebuild images : Nat) : List VulkanObject :=
  .swapChain rebuild :: (List.range images).map (.swapChainImageView rebuild)

def renderFinishedObjects (rebuild count : Nat) : List VulkanObject :=
  (List.range count).map (.renderFinishedSemaphore rebuild)

def eachFrame (object : Nat → VulkanObject) : List VulkanObject :=
  (List.range maxFramesInFlight).map object

/-- `Create` up to the graphics pipeline, with so many images in the swap chain. -/
def pipelineObjects (images : Nat) : List VulkanObject :=
  [.vulkanInstance, .debugMessenger, .surface, .logicalDevice] ++ swapChainObjects 0 images ++
  [.multisampleColorImage 0, .multisampleColorImageView 0, .depthImage 0, .depthImageView 0,
    .descriptorSetLayout, .pipelineLayout]

def descriptorObjects : List VulkanObject :=
  [.textureImageView, .textureSampler] ++ eachFrame .uniformBuffer ++ [.descriptorPool] ++
  eachFrame .descriptorSet

def frameObjects (images : Nat) : List VulkanObject :=
  eachFrame .commandBuffer ++ renderFinishedObjects 0 images ++
  eachFrame .presentCompleteSemaphore ++ eachFrame .inFlightFence

/-- The members in the order of their declaration. -/
def HeldObjects.members (held : HeldObjects) : List VulkanObject :=
  [.vulkanInstance, .debugMessenger, .surface, .logicalDevice] ++
  (held.swapChain.map fun rebuild => swapChainObjects rebuild held.swapChainImageViews).getD [] ++
  [.descriptorSetLayout, .pipelineLayout, .graphicsPipeline, .commandPool] ++
  (List.range held.meshes).flatMap (fun mesh => [.vertexBuffer mesh, .indexBuffer mesh]) ++
  [.textureImage, .textureImageView, .textureSampler,
    .multisampleColorImage held.multisampleColor, .multisampleColorImageView held.multisampleColor,
    .depthImage held.depth, .depthImageView held.depth] ++
  eachFrame .uniformBuffer ++ [.descriptorPool] ++ eachFrame .descriptorSet ++
  eachFrame .commandBuffer ++ eachFrame .presentCompleteSemaphore ++
  renderFinishedObjects held.renderFinished held.renderFinishedSemaphores ++
  eachFrame .inFlightFence

/-- The staging buffer and the copy's commands end with the call. `none` is the call that works;
otherwise so many objects were made before one could not be, or before the copy failed. -/
def createDeviceLocalBuffer (buffer : VulkanObject) (answer : Option Nat) : List ObjectCall :=
  let copied := [.stagingBuffer, buffer, .singleTimeCommands]
  match answer with
  | none =>
    copied.map .create ++ copied.map .use ++
      [.destroy .singleTimeCommands, .destroy .stagingBuffer]
  | some made => passing (copied.take made) (copied.take made)

/-- Where each of the two buffers fails, if the model can be loaded at all. -/
structure AcquireMeshAnswers where
  loaded : Bool
  vertexBuffer : Option Nat
  indexBuffer : Option Nat

def acquireMesh (answers : AcquireMeshAnswers) (held : HeldObjects) :
    List ObjectCall × HeldObjects :=
  if answers.loaded = false then ([], held)
  else
    let vertices := createDeviceLocalBuffer (.vertexBuffer held.meshes) answers.vertexBuffer
    if answers.vertexBuffer.isSome then (vertices, held)
    else
      let indices := createDeviceLocalBuffer (.indexBuffer held.meshes) answers.indexBuffer
      if answers.indexBuffer.isSome then
        (vertices ++ indices ++ [.destroy (.vertexBuffer held.meshes)], held)
      else (vertices ++ indices, { held with meshes := held.meshes + 1 })

/-- How far a rebuild comes: each group is made as a whole, or fails after so many objects. -/
structure RebuildAnswers where
  waited : Bool
  images : Nat
  swapChain : Option Nat
  multisampleColor : Option Nat
  depth : Option Nat
  renderFinishedSemaphores : Option Nat

/-- The views are cleared before the swap chain is released. -/
def releaseSwapChain (held : HeldObjects) : List ObjectCall × HeldObjects :=
  match held.swapChain with
  | none => ([], held)
  | some rebuild =>
    (((List.range held.swapChainImageViews).map (.swapChainImageView rebuild)).map .destroy ++
      [.destroy (.swapChain rebuild)], { held with swapChain := none, swapChainImageViews := 0 })

/-- The tail of `RecreateSwapChain`: the semaphores, if there are not as many as images. -/
def recreateSemaphores (answers : RebuildAnswers) (held : HeldObjects) :
    List ObjectCall × HeldObjects × Bool :=
  if held.renderFinishedSemaphores = held.swapChainImageViews then ([], held, true)
  else
    let made := acquire (renderFinishedObjects held.rebuilds held.swapChainImageViews)
      answers.renderFinishedSemaphores
    if answers.renderFinishedSemaphores.isSome then (made, held, false)
    else
      (made ++ (renderFinishedObjects held.renderFinished held.renderFinishedSemaphores).map
          .destroy,
        { held with
          renderFinished := held.rebuilds
          renderFinishedSemaphores := held.swapChainImageViews }, true)

def recreateDepth (answers : RebuildAnswers) (held : HeldObjects) :
    List ObjectCall × HeldObjects × Bool :=
  let made := acquire [.depthImage held.rebuilds, .depthImageView held.rebuilds] answers.depth
  if answers.depth.isSome then (made, held, false)
  else
    let rest := recreateSemaphores answers { held with depth := held.rebuilds }
    (made ++ [.destroy (.depthImageView held.depth), .destroy (.depthImage held.depth)] ++ rest.1,
      rest.2)

def recreateMultisampleColor (answers : RebuildAnswers) (held : HeldObjects) :
    List ObjectCall × HeldObjects × Bool :=
  let made := acquire [.multisampleColorImage held.rebuilds,
    .multisampleColorImageView held.rebuilds] answers.multisampleColor
  if answers.multisampleColor.isSome then (made, held, false)
  else
    let rest := recreateDepth answers { held with multisampleColor := held.rebuilds }
    (made ++ [.destroy (.multisampleColorImageView held.multisampleColor),
        .destroy (.multisampleColorImage held.multisampleColor)] ++ rest.1,
      rest.2)

/-- The calls, what the members hold afterwards, and whether the rebuild succeeded. -/
def rebuildSwapChain (answers : RebuildAnswers) (held : HeldObjects) :
    List ObjectCall × HeldObjects × Bool :=
  if answers.waited = false then ([.use .logicalDevice], held, false)
  else
    let (released, held) := releaseSwapChain { held with rebuilds := held.rebuilds + 1 }
    let made := acquire (swapChainObjects held.rebuilds answers.images) answers.swapChain
    if answers.swapChain.isSome then (.use .logicalDevice :: (released ++ made), held, false)
    else
      let rest := recreateMultisampleColor answers
        { held with swapChain := some held.rebuilds, swapChainImageViews := answers.images }
      (.use .logicalDevice :: (released ++ made ++ rest.1), rest.2)

/-- What `DrawFrame` uses up to its submission, in this order. The descriptor set stands for the
texture as well. -/
def drawnObjects (held : HeldObjects) (imageIndex : Nat) (meshes : List Nat) (overlay : Bool) :
    List VulkanObject :=
  let swapChain := held.swapChain.toList.map .swapChain
  let imageView := held.swapChain.toList.map (.swapChainImageView · imageIndex)
  [.logicalDevice, .inFlightFence held.frameIndex] ++ swapChain ++
  [.presentCompleteSemaphore held.frameIndex, .inFlightFence held.frameIndex,
    .uniformBuffer held.frameIndex, .commandBuffer held.frameIndex] ++ swapChain ++
  [.multisampleColorImage held.multisampleColor, .depthImage held.depth,
    .multisampleColorImageView held.multisampleColor] ++ imageView ++
  [.depthImageView held.depth, .graphicsPipeline, .pipelineLayout,
    .descriptorSet held.frameIndex, .textureImageView, .textureSampler] ++
  meshes.flatMap (fun mesh => [.vertexBuffer mesh, .indexBuffer mesh]) ++
  (if overlay then imageView ++ [.overlayBackend] else []) ++
  [.presentCompleteSemaphore held.frameIndex, .commandBuffer held.frameIndex,
    .renderFinishedSemaphore held.renderFinished imageIndex, .inFlightFence held.frameIndex]

/-- The objects of a capture end with it, of which so many could be made. -/
def readImageToHost (held : HeldObjects) : Nat → List ObjectCall
  | 0 => []
  | 1 => passing [.readbackBuffer] []
  | _ =>
    passing [.readbackBuffer, .singleTimeCommands]
      (held.swapChain.toList.map .swapChain ++ [.readbackBuffer, .singleTimeCommands])

inductive FrameEnd where
  /-- So many uses came before the frame was given up, or its swap chain was out of date. -/
  | stopped (uses : Nat)
  /-- The readback, if a capture was wanted, could make so many objects. -/
  | presented (capture : Option Nat)

/-- Handles that name no mesh are skipped, and so is the overlay without a backend. -/
def drawFrameObjects (imageIndex : Nat) (handles : List Nat) (drawData : Bool) (ending : FrameEnd)
    (held : HeldObjects) : List ObjectCall × HeldObjects :=
  let meshes := (handles.filter fun index => index ≠ 0 ∧ index ≤ held.meshes).map (· - 1)
  let drawn := drawnObjects held imageIndex meshes (held.debugUiOverlayEnabled && drawData)
  match ending with
  | .stopped uses => ((drawn.take uses).map .use, held)
  | .presented capture =>
    (drawn.map .use ++
      (capture.map fun made => .use .logicalDevice :: readImageToHost held made).getD [] ++
      (.renderFinishedSemaphore held.renderFinished imageIndex ::
        held.swapChain.toList.map .swapChain).map .use,
      { held with frameIndex := (held.frameIndex + 1) % maxFramesInFlight })

def beginDebugUiFrame (held : HeldObjects) : List ObjectCall :=
  if held.debugUiOverlayEnabled then [.use .overlayBackend] else []

/-- The shader module lasts as long as the pipeline is being made. -/
def createGraphicsPipeline : List ObjectCall :=
  [.create .shaderModule, .use .shaderModule, .create .graphicsPipeline, .destroy .shaderModule]

/-- The texture is staged and copied as buffers are. -/
def createTextureImage : List ObjectCall := createDeviceLocalBuffer .textureImage none

def writtenObjects : List VulkanObject :=
  eachFrame .uniformBuffer ++ [.textureSampler, .textureImageView] ++ eachFrame .descriptorSet

/-- `Create` with the overlay's backend, which may fail to come up. -/
def createObjects (images : Nat) (overlay : Bool) : List ObjectCall × HeldObjects :=
  ((pipelineObjects images).map .create ++ createGraphicsPipeline ++ [.create .commandPool] ++
      createTextureImage ++ descriptorObjects.map .create ++ writtenObjects.map .use ++
      (frameObjects images).map .create ++ (if overlay then [.create .overlayBackend] else []),
    { swapChainImageViews := images
      renderFinishedSemaphores := images
      debugUiOverlayEnabled := overlay })

def destroyObjects (held : HeldObjects) : List ObjectCall :=
  .use .logicalDevice ::
    ((if held.debugUiOverlayEnabled then [.destroy .overlayBackend] else []) ++
      held.members.reverse.map .destroy)

/-- The renderer up to now, from a `Create` that succeeded. A frame that fails ends the loop, so no
rebuild here failed. -/
inductive RendererRun : List ObjectCall → HeldObjects → Prop where
  | created (images : Nat) (overlay : Bool) :
    RendererRun (createObjects images overlay).1 (createObjects images overlay).2
  | acquiredMesh {calls : List ObjectCall} {held : HeldObjects} (answers : AcquireMeshAnswers) :
    RendererRun calls held →
    RendererRun (calls ++ (acquireMesh answers held).1) (acquireMesh answers held).2
  | begunDebugUiFrame {calls : List ObjectCall} {held : HeldObjects} :
    RendererRun calls held → RendererRun (calls ++ beginDebugUiFrame held) held
  | drawn {calls : List ObjectCall} {held : HeldObjects} (imageIndex : Nat) (handles : List Nat)
    (drawData : Bool) (ending : FrameEnd) : RendererRun calls held →
    imageIndex < held.swapChainImageViews →
    RendererRun (calls ++ (drawFrameObjects imageIndex handles drawData ending held).1)
      (drawFrameObjects imageIndex handles drawData ending held).2
  | rebuilt {calls : List ObjectCall} {held : HeldObjects} (answers : RebuildAnswers) :
    RendererRun calls held → (rebuildSwapChain answers held).2.2 = true →
    RendererRun (calls ++ (rebuildSwapChain answers held).1) (rebuildSwapChain answers held).2.1

end PlaygroundEngine.Renderer
