import PlaygroundEngine.Library.FramesInFlight
import PlaygroundEngine.Library.Guarantee
import PlaygroundEngine.Reflection.Enumeration

/-!
# What the renderer asks of Vulkan

The driver is a parameter: its calls with their answers, and what its queue is up
to. `Conforms` is what the specification of these calls promises.
-/

namespace PlaygroundEngine.Renderer

open Library
set_option autoImplicit false

inductive VkResult where
  | success
  | suboptimal
  | outOfDate
  | other (code : Int32)
  deriving DecidableEq

-- Objects are named by their creation, so no name is ever used twice.
abbrev VkFence := Nat
abbrev VkSemaphore := Nat
abbrev VkImage := Nat
abbrev VkImageView := Nat
abbrev VkCommandBuffer := Nat
abbrev VkSwapchain := Nat

structure FramebufferSize where
  width : Int32 := 0
  height : Int32 := 0

structure Extent2D where
  width : UInt32
  height : UInt32
  deriving DecidableEq

inductive PresentMode where
  | immediate
  | mailbox
  | fifo
  | fifoRelaxed
  deriving DecidableEq

structure SurfaceCapabilities where
  minImageCount : UInt32
  maxImageCount : UInt32
  minImageExtent : Extent2D
  maxImageExtent : Extent2D
  /-- The transfer source bit of the supported usage. -/
  supportsTransferSource : Bool

structure SwapchainCreateInfo where
  minImageCount : UInt32
  imageExtent : Extent2D
  /-- The transfer source bit of the image usage. -/
  transferSource : Bool
  presentMode : PresentMode

inductive RendererCreationErrorKind where
  | surfaceCapabilitiesFormatsError
  | swapChainTransferSourceUnsupported
  | swapChainCreationError
  | swapChainImagesCreationError
  | imageViewCreationError
  | bufferCreateError
  | deviceMemoryAllocationError
  | deviceMemoryBindError
  | deviceMemoryMapError
  | cantFindMemoryType
  | imageCreateError
  | commandBufferCreateError
  | commandBufferCopyError
  | semaphoreCreateError
  | fenceCreateError
  | captureFormatUnsupported
  | captureEncodeError
  | captureWriteError
  deriving DecidableEq

inductive RendererRenderErrorKind where
  | commandBufferBeginError
  | commandBufferEndError
  | fenceWaitError
  | fenceResetError
  | unableToAcquireSwapChainImage
  | unableToResetCommandBuffer
  | queueSubmitError
  | queuePresentError
  | deviceWaitIdleError
  | swapChainRecreationError
  deriving DecidableEq

abbrev CapturePath := Bytes

/-- What the driver was asked for in a frame: its submission and its capture. -/
inductive DriverCall where
  | submitted (submission : Submission VkFence VkSemaphore)
  /-- The device could not be waited for. -/
  | waitFailed
  | readBack (image : VkImage)
  | wrote (pixels : Bytes) (path : CapturePath)

abbrev Queue := QueueState VkFence VkSemaphore DriverCall

abbrev Answer (ε α Device : Type) := Except ε α × Device

/-- The driver. The last four members stand for helpers that only allocate, copy or write. -/
structure Vulkan (Device : Type) where
  queue : Device → Queue
  images : VkSwapchain → List VkImage
  waitForFences : VkFence → Device → VkResult × Device
  acquireNextImage : VkSwapchain → VkSemaphore → Device → (VkResult × Nat) × Device
  resetFences : VkFence → Device → Answer VkResult Unit Device
  resetCommandBuffer : VkCommandBuffer → Device → Answer VkResult Unit Device
  beginCommandBuffer : VkCommandBuffer → Device → Answer VkResult Unit Device
  endCommandBuffer : VkCommandBuffer → Device → Answer VkResult Unit Device
  /-- The submission signals the second semaphore when it completes. -/
  submit : Submission VkFence VkSemaphore → VkCommandBuffer → VkSemaphore → Device →
    Answer VkResult Unit Device
  presentKHR : VkSemaphore → VkSwapchain → Nat → Device → VkResult × Device
  waitIdle : Device → Answer VkResult Unit Device
  getSurfaceCapabilities : Device → Answer VkResult SurfaceCapabilities Device
  getSurfacePresentModes : Device → Answer VkResult (List PresentMode) Device
  createSwapchain : SwapchainCreateInfo → Device → Answer VkResult VkSwapchain Device
  getImages : VkSwapchain → Device → Answer VkResult (List VkImage) Device
  createImageView : VkImage → Device → Answer VkResult VkImageView Device
  createSemaphore : Device → Answer VkResult VkSemaphore Device
  createSignaledFence : Device → Answer VkResult VkFence Device
  allocateCommandBuffers : Nat → Device → Answer VkResult (List VkCommandBuffer) Device
  createMultisampleColorResources : Extent2D → Device → Answer RendererCreationErrorKind Unit Device
  createDepthResources : Extent2D → Device → Answer RendererCreationErrorKind Unit Device
  readImageToHost : VkImage → Extent2D → Device → Answer RendererCreationErrorKind Bytes Device
  /-- Encodes the pixels and writes the file. -/
  writeCapture : Bytes → Extent2D → CapturePath → Device →
    Answer RendererCreationErrorKind Unit Device

/-- A call that leaves the queue to itself. -/
def Quiet {Device α : Type} (V : Vulkan Device) (call : Device → α × Device) : Prop :=
  ∀ device, Progress (V.queue device) (V.queue (call device).2)

structure Vulkan.Conforms {Device : Type} (V : Vulkan Device) : Prop where
  waitForFences : ∀ fence, Quiet V (V.waitForFences fence)
  /-- A wait ends when the fence is signalled, that is once its submission is complete. -/
  waited : ∀ fence device after, V.waitForFences fence device = (.success, after) →
    (V.queue after).signalled fence ∧ (V.queue after).unused fence
  /-- An acquired image is one of the swap chain's, and the semaphore gets a signal. -/
  acquired : ∀ swapChain semaphore device result imageIndex after,
    V.acquireNextImage swapChain semaphore device = ((result, imageIndex), after) →
    result = .success ∨ result = .suboptimal →
    imageIndex < (V.images swapChain).length ∧
      Progress ((V.queue device).signal semaphore) (V.queue after)
  notAcquired : ∀ swapChain semaphore device result imageIndex after,
    V.acquireNextImage swapChain semaphore device = ((result, imageIndex), after) →
    ¬ (result = .success ∨ result = .suboptimal) →
    Progress (V.queue device) (V.queue after)
  resetFences : ∀ fence device after, V.resetFences fence device = (.ok (), after) →
    Progress ((V.queue device).reset fence) (V.queue after)
  resetCommandBuffer : ∀ commandBuffer, Quiet V (V.resetCommandBuffer commandBuffer)
  beginCommandBuffer : ∀ commandBuffer, Quiet V (V.beginCommandBuffer commandBuffer)
  endCommandBuffer : ∀ commandBuffer, Quiet V (V.endCommandBuffer commandBuffer)
  submit : ∀ submission commandBuffer signals device after,
    V.submit submission commandBuffer signals device = (.ok (), after) →
    Progress ((((V.queue device).submit submission).signal signals).note (.submitted submission))
      (V.queue after)
  /-- A present that fails may leave its semaphore alone. -/
  presentKHR : ∀ semaphore swapChain imageIndex device,
    Progress (V.queue device) (V.queue (V.presentKHR semaphore swapChain imageIndex device).2) ∨
      Progress ((V.queue device).consume semaphore)
        (V.queue (V.presentKHR semaphore swapChain imageIndex device).2)
  waitIdle : ∀ device after, V.waitIdle device = (.ok (), after) →
    Progress (V.queue device) (V.queue after)
  waitFailed : ∀ device error after, V.waitIdle device = (.error error, after) →
    Progress ((V.queue device).note .waitFailed) (V.queue after)
  getSurfaceCapabilities : Quiet V V.getSurfaceCapabilities
  getSurfacePresentModes : Quiet V V.getSurfacePresentModes
  createSwapchain : ∀ info, Quiet V (V.createSwapchain info)
  getImages : ∀ swapChain, Quiet V (V.getImages swapChain)
  gotImages : ∀ swapChain device images after,
    V.getImages swapChain device = (.ok images, after) → images = V.images swapChain
  createImageView : ∀ image, Quiet V (V.createImageView image)
  /-- A new semaphore is no other one, and nothing is under way on it. -/
  createSemaphore : ∀ device semaphore after, V.createSemaphore device = (.ok semaphore, after) →
    semaphore ∉ (V.queue device).semaphores ∧
      (∀ submission ∈ (V.queue device).pending, submission.waits ≠ semaphore) ∧
      Progress ((V.queue device).addSemaphore semaphore) (V.queue after)
  createSignaledFence : ∀ device fence after,
    V.createSignaledFence device = (.ok fence, after) →
    Progress ((V.queue device).addSignalledFence fence) (V.queue after)
  allocateCommandBuffers : ∀ count, Quiet V (V.allocateCommandBuffers count)
  allocatedCommandBuffers : ∀ count device commandBuffers after,
    V.allocateCommandBuffers count device = (.ok commandBuffers, after) →
    commandBuffers.length = count
  createMultisampleColorResources : ∀ extent, Quiet V (V.createMultisampleColorResources extent)
  createDepthResources : ∀ extent, Quiet V (V.createDepthResources extent)
  readImageToHost : ∀ image extent device,
    Progress ((V.queue device).note (.readBack image))
      (V.queue (V.readImageToHost image extent device).2)
  writeCapture : ∀ pixels extent path device,
    Progress ((V.queue device).note (.wrote pixels path))
      (V.queue (V.writeCapture pixels extent path device).2)

/-- Breaks of the rules a caller has to keep, and reads outside of a vector. -/
inductive Violation where
  /-- A wait for a fence that nothing will signal. -/
  | endlessWait
  | semaphoreInUse
  | fenceInUse
  | outOfRange
  deriving DecidableEq

/-- How a call of the renderer ends early. -/
inductive Stop where
  | violation (violation : Violation)
  | error (kind : RendererRenderErrorKind)
  deriving DecidableEq

def Stop.IsViolation : Stop → Prop
  | .violation _ => True
  | .error _ => False

theorem Stop.error_expected (kind : RendererRenderErrorKind) :
    ¬ (Stop.error kind).IsViolation := not_false

/-- The value of an answer and the device, or a given error. -/
def attempt {ε δ α Device : Type} (error : ε) : Answer δ α Device → Except ε (α × Device)
  | (.ok value, device) => .ok (value, device)
  | (.error _, _) => .error error

def answered {ε α Device : Type} : Answer ε α Device → Except ε (α × Device)
  | (.ok value, device) => .ok (value, device)
  | (.error error, _) => .error error

def atIndex {α : Type} (values : List α) (index : Nat) : Except Stop α :=
  match values[index]? with
  | some value => .ok value
  | none => .error (.violation .outOfRange)

section Rules
variable {ε δ α Device : Type} {fault : ε → Prop}

theorem guarantees_attempt {error : ε} {answer : Answer δ α Device} {post : α × Device → Prop}
    (herror : ¬ fault error)
    (h : ∀ value after, answer = (.ok value, after) → post (value, after)) :
    Guarantees fault (attempt error answer) post := by
  obtain ⟨outcome, after⟩ := answer
  cases outcome with
  | ok value => exact h value after rfl
  | error _ => exact herror

theorem guarantees_answered {answer : Answer ε α Device} {post : α × Device → Prop}
    (herror : ∀ error, ¬ fault error)
    (h : ∀ value after, answer = (.ok value, after) → post (value, after)) :
    Guarantees fault (answered answer) post := by
  obtain ⟨outcome, after⟩ := answer
  cases outcome with
  | ok value => exact h value after rfl
  | error error => exact herror error

theorem guarantees_atIndex {values : List α} {index : Nat} (h : index < values.length)
    {post : α → Prop} (hpost : ∀ value, values[index]? = some value → post value) :
    Guarantees Stop.IsViolation (atIndex values index) post := by
  have hvalue := List.getElem?_eq_getElem h
  rw [atIndex, hvalue]
  exact hpost _ hvalue

theorem Quiet.after {V : Vulkan Device} {call : Device → α × Device} (h : Quiet V call)
    {device after : Device} {value : α} (hcall : call device = (value, after)) :
    Progress (V.queue device) (V.queue after) := by
  have hprogress := h device
  rw [hcall] at hprogress
  exact hprogress

theorem Quiet.attempt {V : Vulkan Device} {call : Device → Answer δ α Device} (h : Quiet V call)
    {error : ε} (herror : ¬ fault error) (device : Device) :
    Guarantees fault (attempt error (call device)) fun result =>
      Progress (V.queue device) (V.queue result.2) :=
  guarantees_attempt herror fun _ _ hcall => h.after hcall

theorem Quiet.answered {V : Vulkan Device} {call : Device → Answer ε α Device} (h : Quiet V call)
    (herror : ∀ error, ¬ fault error) (device : Device) :
    Guarantees fault (answered (call device)) fun result =>
      Progress (V.queue device) (V.queue result.2) :=
  guarantees_answered herror fun _ _ hcall => h.after hcall

end Rules

end PlaygroundEngine.Renderer
