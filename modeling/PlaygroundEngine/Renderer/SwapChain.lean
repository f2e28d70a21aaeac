import PlaygroundEngine.Renderer.Vulkan
import Mathlib.Data.List.Zip

/-!
# The renderer's objects and the swap chain

What frames wait for and what they draw into: created once, and created again for
a new framebuffer size. Both vectors of views and semaphores follow the images.
-/

namespace PlaygroundEngine.Renderer

open Library
set_option autoImplicit false

def maxFramesInFlight : Nat := 2

/-- The two 8-bit four-channel families, and every other format. -/
inductive SurfaceFormat where
  | b8g8r8a8
  | r8g8b8a8
  | other
  deriving DecidableEq

structure RendererVulkan where
  swapChain : VkSwapchain
  swapChainImages : List VkImage
  swapChainExtent : Extent2D
  swapChainSupportsTransferSource : Bool
  swapChainSurfaceFormat : SurfaceFormat
  swapChainImageViews : List VkImageView
  commandBuffers : List VkCommandBuffer
  presentCompleteSemaphores : List VkSemaphore
  renderFinishedSemaphores : List VkSemaphore
  inFlightFences : List VkFence
  frameIndex : Nat := 0
  framebufferResized : Bool := false
  pendingCapturePath : Option CapturePath := none

def RendererVulkan.slots (renderer : RendererVulkan) : List (VkFence × VkSemaphore) :=
  renderer.inFlightFences.zip renderer.presentCompleteSemaphores

theorem mem_slots {renderer : RendererVulkan} {fence : VkFence} {semaphore : VkSemaphore}
    (hfence : renderer.inFlightFences[renderer.frameIndex]? = some fence)
    (hsemaphore : renderer.presentCompleteSemaphores[renderer.frameIndex]? = some semaphore) :
    (fence, semaphore) ∈ renderer.slots :=
  List.mem_iff_getElem?.mpr
    ⟨renderer.frameIndex, List.getElem?_zip_eq_some.mpr ⟨hfence, hsemaphore⟩⟩

structure SwapChainResources where
  swapChain : VkSwapchain
  images : List VkImage
  imageViews : List VkImageView
  extent : Extent2D
  supportsTransferSource : Bool

section Create
variable {Device : Type} (V : Vulkan Device)

def clamp (value low high : UInt32) : UInt32 :=
  if value < low then low else if high < value then high else value

def createImageViews : List VkImage → Device →
    Except RendererCreationErrorKind (List VkImageView × Device)
  | [], device => .ok ([], device)
  | image :: images, device => do
    let (view, device) ← attempt .imageViewCreationError (V.createImageView image device)
    let (views, device) ← createImageViews images device
    return (view :: views, device)

/-- What is asked for is a lower bound only; the driver may make more images. -/
def swapchainCreateInfo (framebufferSize : FramebufferSize) (capabilities : SurfaceCapabilities)
    (presentModes : List PresentMode) : SwapchainCreateInfo :=
  let minImageCount := max 3 capabilities.minImageCount
  { minImageCount :=
      if 0 < capabilities.maxImageCount ∧ capabilities.maxImageCount < minImageCount then
        capabilities.maxImageCount
      else minImageCount
    imageExtent :=
      ⟨clamp framebufferSize.width.toUInt32 capabilities.minImageExtent.width
          capabilities.maxImageExtent.width,
        clamp framebufferSize.height.toUInt32 capabilities.minImageExtent.height
          capabilities.maxImageExtent.height⟩
    transferSource := capabilities.supportsTransferSource
    presentMode := if presentModes.contains .mailbox then .mailbox else .fifo }

def createSwapChainResources (framebufferSize : FramebufferSize) (device : Device) :
    Except RendererCreationErrorKind (SwapChainResources × Device) := do
  -- Both queries are made before either answer is looked at; an error is the same for both.
  let (capabilities, device) := V.getSurfaceCapabilities device
  let (presentModes, device) := V.getSurfacePresentModes device
  let (capabilities, device) ← attempt .surfaceCapabilitiesFormatsError (capabilities, device)
  let (presentModes, device) ← attempt .surfaceCapabilitiesFormatsError (presentModes, device)
  let info := swapchainCreateInfo framebufferSize capabilities presentModes
  let (swapChain, device) ← attempt .swapChainCreationError (V.createSwapchain info device)
  let (images, device) ← attempt .swapChainImagesCreationError (V.getImages swapChain device)
  let (imageViews, device) ← createImageViews V images device
  return ({
    swapChain, images, imageViews
    extent := info.imageExtent
    supportsTransferSource := capabilities.supportsTransferSource }, device)

def createSemaphores : Nat → Device → Except RendererCreationErrorKind (List VkSemaphore × Device)
  | 0, device => .ok ([], device)
  | count + 1, device => do
    let (semaphore, device) ← attempt .semaphoreCreateError (V.createSemaphore device)
    let (semaphores, device) ← createSemaphores count device
    return (semaphore :: semaphores, device)

def createSignaledFences : Nat → Device → Except RendererCreationErrorKind (List VkFence × Device)
  | 0, device => .ok ([], device)
  | count + 1, device => do
    let (fence, device) ← attempt .fenceCreateError (V.createSignaledFence device)
    let (fences, device) ← createSignaledFences count device
    return (fence :: fences, device)

/-- The steps of the creation that make what the frames use; the others only allocate. -/
def create (framebufferSize : FramebufferSize) (surfaceFormat : SurfaceFormat) (device : Device) :
    Except RendererCreationErrorKind (RendererVulkan × Device) := do
  let (swapChain, device) ← createSwapChainResources V framebufferSize device
  let (_, device) ← answered (V.createMultisampleColorResources swapChain.extent device)
  let (_, device) ← answered (V.createDepthResources swapChain.extent device)
  let (commandBuffers, device) ←
    attempt .commandBufferCreateError (V.allocateCommandBuffers maxFramesInFlight device)
  let (renderFinishedSemaphores, device) ← createSemaphores V swapChain.images.length device
  let (presentCompleteSemaphores, device) ← createSemaphores V maxFramesInFlight device
  let (inFlightFences, device) ← createSignaledFences V maxFramesInFlight device
  return ({
    swapChain := swapChain.swapChain
    swapChainImages := swapChain.images
    swapChainExtent := swapChain.extent
    swapChainSupportsTransferSource := swapChain.supportsTransferSource
    swapChainSurfaceFormat := surfaceFormat
    swapChainImageViews := swapChain.imageViews
    commandBuffers, presentCompleteSemaphores, renderFinishedSemaphores, inFlightFences }, device)

/-- A creation error of the re-creation, whatever its kind. -/
def recreating {α : Type} : Except RendererCreationErrorKind α → Except Stop α :=
  Except.mapError fun _ => .error .swapChainRecreationError

def recreateSwapChain (framebufferSize : FramebufferSize) (renderer : RendererVulkan)
    (device : Device) : Except Stop (RendererVulkan × Device) := do
  let (_, device) ← attempt (.error .deviceWaitIdleError) (V.waitIdle device)
  let (swapChain, device) ← recreating (createSwapChainResources V framebufferSize device)
  let renderer := { renderer with
    swapChain := swapChain.swapChain
    swapChainImages := swapChain.images
    swapChainImageViews := swapChain.imageViews
    swapChainExtent := swapChain.extent
    swapChainSupportsTransferSource := swapChain.supportsTransferSource }
  let (_, device) ←
    recreating (answered (V.createMultisampleColorResources renderer.swapChainExtent device))
  let (_, device) ← recreating (answered (V.createDepthResources renderer.swapChainExtent device))
  if renderer.renderFinishedSemaphores.length ≠ renderer.swapChainImages.length then
    let (semaphores, device) ←
      recreating (createSemaphores V renderer.swapChainImages.length device)
    return ({ renderer with renderFinishedSemaphores := semaphores }, device)
  return (renderer, device)

end Create

/-- Creation errors are errors, never faults. -/
abbrev Creates {α : Type} (outcome : Except RendererCreationErrorKind α) (post : α → Prop) : Prop :=
  Guarantees (fun _ => False) outcome post

theorem guarantees_recreating {α : Type} {outcome : Except RendererCreationErrorKind α}
    {post : α → Prop} (h : Creates outcome post) :
    Guarantees Stop.IsViolation (recreating outcome) post := by
  cases outcome with
  | ok result => exact Guarantees.pure h
  | error kind => exact Guarantees.stop (Stop.error_expected _)

/-- The renderer's vectors fit each other. -/
structure Built {Device : Type} (V : Vulkan Device) (renderer : RendererVulkan) (queue : Queue) :
    Prop where
  frameIndex : renderer.frameIndex < maxFramesInFlight
  inFlightFences : renderer.inFlightFences.length = maxFramesInFlight
  presentCompleteSemaphores : renderer.presentCompleteSemaphores.length = maxFramesInFlight
  commandBuffers : renderer.commandBuffers.length = maxFramesInFlight
  nodup : renderer.presentCompleteSemaphores.Nodup
  known : ∀ semaphore ∈ renderer.presentCompleteSemaphores, semaphore ∈ queue.semaphores
  apart : ∀ semaphore ∈ renderer.renderFinishedSemaphores,
    semaphore ∉ renderer.presentCompleteSemaphores
  images : renderer.swapChainImages = V.images renderer.swapChain
  imageViews : renderer.swapChainImageViews.length = renderer.swapChainImages.length
  renderFinishedSemaphores :
    renderer.renderFinishedSemaphores.length = renderer.swapChainImages.length

/-- Between two frames. -/
structure Ready {Device : Type} (V : Vulkan Device) (renderer : RendererVulkan)
    (device : Device) : Prop where
  built : Built V renderer (V.queue device)
  slots : SlotsReady renderer.slots (V.queue device)

theorem Built.frameIndex_lt {Device α : Type} {V : Vulkan Device} {renderer : RendererVulkan}
    {queue : Queue} (h : Built V renderer queue) {values : List α}
    (hlength : values.length = maxFramesInFlight) : renderer.frameIndex < values.length := by
  rw [hlength]
  exact h.frameIndex

theorem Built.of_semaphores {Device : Type} {V : Vulkan Device} {renderer : RendererVulkan}
    {queue after : Queue} (h : Built V renderer queue)
    (hsemaphores : after.semaphores = queue.semaphores) : Built V renderer after :=
  { h with known := fun semaphore hmem => hsemaphores ▸ h.known semaphore hmem }

theorem map_snd_slots {Device : Type} {V : Vulkan Device} {renderer : RendererVulkan}
    {queue : Queue} (h : Built V renderer queue) :
    renderer.slots.map Prod.snd = renderer.presentCompleteSemaphores := by
  rw [RendererVulkan.slots, List.map_snd_zip]
  rw [h.inFlightFences, h.presentCompleteSemaphores]

theorem Ready.progress {Device : Type} {V : Vulkan Device} {renderer : RendererVulkan}
    {device after : Device} (h : Ready V renderer device)
    (hprogress : Progress (V.queue device) (V.queue after)) : Ready V renderer after where
  built := h.built.of_semaphores hprogress.semaphores
  slots := h.slots.progress hprogress

theorem Ready.noted {Device : Type} {V : Vulkan Device} {renderer : RendererVulkan}
    {device after : Device} (h : Ready V renderer device) {entry : DriverCall}
    (hprogress : Progress ((V.queue device).note entry) (V.queue after)) :
    Ready V renderer after where
  built := h.built.of_semaphores hprogress.semaphores
  slots := (h.slots.note entry).progress hprogress

/-- The semaphores just made: each is new, and nothing is under way on it. -/
structure NewSemaphores (before after : Queue) (semaphores : List VkSemaphore) : Prop where
  nodup : semaphores.Nodup
  fresh : ∀ semaphore ∈ semaphores, semaphore ∉ before.semaphores
  known : ∀ semaphore ∈ semaphores, semaphore ∈ after.semaphores
  idle : ∀ semaphore ∈ semaphores, after.idle semaphore
  grows : Grows before after

theorem NewSemaphores.nil (queue : Queue) : NewSemaphores queue queue [] where
  nodup := List.nodup_nil
  fresh _ h := absurd h List.not_mem_nil
  known _ h := absurd h List.not_mem_nil
  idle _ h := absurd h List.not_mem_nil
  grows := Grows.refl queue

theorem NewSemaphores.cons {before between after : Queue} {semaphore : VkSemaphore}
    {semaphores : List VkSemaphore} (h : NewSemaphores before between [semaphore])
    (hrest : NewSemaphores between after semaphores) :
    NewSemaphores before after (semaphore :: semaphores) := by
  have hmem : semaphore ∈ [semaphore] := List.mem_singleton_self semaphore
  have hknown : semaphore ∈ between.semaphores := h.known semaphore hmem
  refine ⟨?_, ?_, ?_, ?_, h.grows.trans hrest.grows⟩
  · exact List.nodup_cons.mpr ⟨fun hagain => hrest.fresh semaphore hagain hknown, hrest.nodup⟩
  · rw [List.forall_mem_cons]
    exact ⟨h.fresh semaphore hmem,
      fun other hother hold => hrest.fresh other hother (h.grows.semaphores other hold)⟩
  · rw [List.forall_mem_cons]
    exact ⟨hrest.grows.semaphores semaphore hknown, hrest.known⟩
  · rw [List.forall_mem_cons]
    exact ⟨hrest.grows.idle semaphore (h.idle semaphore hmem), hrest.idle⟩

section Specs
variable {Device : Type} {V : Vulkan Device} (hV : V.Conforms)
include hV

theorem createImageViews_spec (images : List VkImage) (device : Device) :
    Creates (createImageViews V images device) fun result =>
      result.1.length = images.length ∧ Progress (V.queue device) (V.queue result.2) := by
  induction images generalizing device with
  | nil => exact Guarantees.pure ⟨rfl, Progress.refl _⟩
  | cons image images ih =>
    apply ((hV.createImageView image).attempt not_false device).bind
    intro ⟨view, after⟩ hview
    apply (ih after).bind
    intro ⟨views, last⟩ ⟨hlength, hviews⟩
    exact Guarantees.pure ⟨congrArg (· + 1) hlength, hview.trans hviews⟩

theorem createSwapChainResources_spec (framebufferSize : FramebufferSize) (device : Device) :
    Creates (createSwapChainResources V framebufferSize device) fun result =>
      result.1.images = V.images result.1.swapChain ∧
        result.1.imageViews.length = result.1.images.length ∧
        Progress (V.queue device) (V.queue result.2) := by
  have hqueries := (hV.getSurfaceCapabilities device).trans (hV.getSurfacePresentModes _)
  -- The answers of the two queries do not touch the device again.
  have hkept : ∀ {α : Type} (answer : Except VkResult α) (after : Device),
      Creates (attempt .surfaceCapabilitiesFormatsError (answer, after)) fun result =>
        result.2 = after := fun answer after =>
    guarantees_attempt not_false fun value last h => (Prod.mk.inj h).2.symm
  apply (hkept _ _).bind
  rintro ⟨capabilities, _⟩ rfl
  apply (hkept _ _).bind
  rintro ⟨presentModes, _⟩ rfl
  apply ((hV.createSwapchain _).attempt not_false _).bind
  intro ⟨swapChain, after⟩ hswapChain
  have himages : Creates
      (attempt .swapChainImagesCreationError (V.getImages swapChain after)) fun result =>
        result.1 = V.images swapChain ∧ Progress (V.queue after) (V.queue result.2) :=
    guarantees_attempt not_false fun images last h =>
      ⟨hV.gotImages swapChain after images last h, (hV.getImages swapChain).after h⟩
  apply himages.bind
  intro ⟨images, last⟩ ⟨himages, hlast⟩
  apply (createImageViews_spec hV images last).bind
  intro ⟨views, final⟩ ⟨hlength, hfinal⟩
  exact Guarantees.pure
    ⟨himages, hlength, ((hqueries.trans hswapChain).trans hlast).trans hfinal⟩

theorem newSemaphores_created {device after : Device} {semaphore : VkSemaphore}
    (hcall : V.createSemaphore device = (.ok semaphore, after)) :
    NewSemaphores (V.queue device) (V.queue after) [semaphore] := by
  obtain ⟨hfresh, hunused, hprogress⟩ := hV.createSemaphore device semaphore after hcall
  have hidle : ((V.queue device).addSemaphore semaphore).idle semaphore := by
    rw [QueueState.idle_iff]
    refine ⟨?_, hunused⟩
    show ¬ ((V.queue device).consume semaphore).outstanding semaphore
    rw [QueueState.outstanding_consume, if_pos rfl]
    exact Bool.false_ne_true
  refine ⟨List.nodup_singleton _, ?_, ?_, ?_,
    (Grows.addSemaphore _ semaphore).trans (Grows.of_progress hprogress)⟩
  · intro other hother
    rw [List.mem_singleton.mp hother]
    exact hfresh
  · intro other hother
    rw [List.mem_singleton.mp hother, hprogress.semaphores]
    exact List.mem_cons_self
  · intro other hother
    rw [List.mem_singleton.mp hother]
    exact hprogress.idle hidle

theorem createSemaphores_spec (count : Nat) (device : Device) :
    Creates (createSemaphores V count device) fun result =>
      result.1.length = count ∧ NewSemaphores (V.queue device) (V.queue result.2) result.1 := by
  induction count generalizing device with
  | zero => exact Guarantees.pure ⟨rfl, NewSemaphores.nil _⟩
  | succ count ih =>
    have hfirst : Creates (attempt .semaphoreCreateError (V.createSemaphore device)) fun result =>
        NewSemaphores (V.queue device) (V.queue result.2) [result.1] :=
      guarantees_attempt not_false fun _ _ hcall => newSemaphores_created hV hcall
    apply hfirst.bind
    intro ⟨semaphore, after⟩ hnew
    apply (ih after).bind
    intro ⟨semaphores, last⟩ ⟨hlength, hrest⟩
    exact Guarantees.pure ⟨congrArg (· + 1) hlength, hnew.cons hrest⟩

theorem createSignaledFences_spec (count : Nat) (device : Device) :
    Creates (createSignaledFences V count device) fun result =>
      result.1.length = count ∧ (∀ fence ∈ result.1, (V.queue result.2).signalled fence) ∧
        Grows (V.queue device) (V.queue result.2) := by
  induction count generalizing device with
  | zero =>
    exact Guarantees.pure ⟨rfl, fun _ h => absurd h List.not_mem_nil, Grows.refl _⟩
  | succ count ih =>
    have hfirst : Creates (attempt .fenceCreateError (V.createSignaledFence device)) fun result =>
        (V.queue result.2).signalled result.1 ∧ Grows (V.queue device) (V.queue result.2) := by
      apply guarantees_attempt not_false
      intro fence after hcall
      have hprogress := hV.createSignaledFence device fence after hcall
      refine ⟨hprogress.kept fence ?_,
        (Grows.addSignalledFence _ fence).trans (Grows.of_progress hprogress)⟩
      rw [QueueState.signalled_addSignalledFence, if_pos rfl]
    apply hfirst.bind
    intro ⟨fence, after⟩ ⟨hsignalled, hgrows⟩
    apply (ih after).bind
    intro ⟨fences, last⟩ ⟨hlength, hrest, hlast⟩
    refine ⟨congrArg (· + 1) hlength, ?_, hgrows.trans hlast⟩
    intro other hother
    rcases List.mem_cons.mp hother with rfl | hmem
    · exact hlast.signalled other hsignalled
    · exact hrest other hmem

theorem create_spec (framebufferSize : FramebufferSize) (surfaceFormat : SurfaceFormat)
    (device : Device) :
    Creates (create V framebufferSize surfaceFormat device) fun result =>
      Ready V result.1 result.2 ∧ result.1.pendingCapturePath = none := by
  apply (createSwapChainResources_spec hV framebufferSize device).bind
  intro ⟨swapChain, d₁⟩ ⟨himages, hviews, _⟩
  apply ((hV.createMultisampleColorResources _).answered (fun _ => not_false) _).bind
  intro ⟨_, d₂⟩ _
  apply ((hV.createDepthResources _).answered (fun _ => not_false) _).bind
  intro ⟨_, d₃⟩ _
  have hbuffers : Creates (attempt .commandBufferCreateError
      (V.allocateCommandBuffers maxFramesInFlight d₃)) fun result =>
        result.1.length = maxFramesInFlight :=
    guarantees_attempt not_false fun commandBuffers after h =>
      hV.allocatedCommandBuffers _ d₃ commandBuffers after h
  apply hbuffers.bind
  intro ⟨commandBuffers, d₄⟩ hbuffers
  apply (createSemaphores_spec hV _ d₄).bind
  intro ⟨renderFinished, d₅⟩ ⟨hfinishedLength, hfinished⟩
  apply (createSemaphores_spec hV _ d₅).bind
  intro ⟨presentComplete, d₆⟩ ⟨hcompleteLength, hcomplete⟩
  apply (createSignaledFences_spec hV _ d₆).bind
  intro ⟨fences, d₇⟩ ⟨hfencesLength, hsignalled, hgrows⟩
  refine ⟨⟨?_, SlotsReady.of_idle ?_ ?_⟩, rfl⟩
  · refine ⟨Nat.zero_lt_two, hfencesLength, hcompleteLength, hbuffers, hcomplete.nodup, ?_, ?_,
      himages, hviews, hfinishedLength⟩
    · intro semaphore hmem
      exact hgrows.semaphores semaphore (hcomplete.known semaphore hmem)
    · intro semaphore hmem hboth
      exact hcomplete.fresh semaphore hboth (hfinished.known semaphore hmem)
  · intro slot hslot
    exact hsignalled slot.1 (List.of_mem_zip hslot).1
  · intro slot hslot
    exact hgrows.idle slot.2 (hcomplete.idle slot.2 (List.of_mem_zip hslot).2)

theorem recreateSwapChain_spec {renderer : RendererVulkan} {device : Device}
    (h : Ready V renderer device) (framebufferSize : FramebufferSize) :
    Guarantees Stop.IsViolation (recreateSwapChain V framebufferSize renderer device)
      fun result => Ready V result.1 result.2 ∧
        result.1.pendingCapturePath = renderer.pendingCapturePath ∧
        (V.queue result.2).record = (V.queue device).record := by
  have hwait : Guarantees Stop.IsViolation
      (attempt (.error .deviceWaitIdleError) (V.waitIdle device)) fun result =>
        Progress (V.queue device) (V.queue result.2) :=
    guarantees_attempt (Stop.error_expected _) fun _ after => hV.waitIdle device after
  apply hwait.bind
  intro ⟨_, d₁⟩ h₁
  apply (guarantees_recreating (createSwapChainResources_spec hV framebufferSize d₁)).bind
  intro ⟨swapChain, d₂⟩ ⟨himages, hviews, h₂⟩
  apply (guarantees_recreating
    ((hV.createMultisampleColorResources _).answered (fun _ => not_false) d₂)).bind
  intro ⟨_, d₃⟩ h₃
  apply (guarantees_recreating ((hV.createDepthResources _).answered (fun _ => not_false) d₃)).bind
  intro ⟨_, d₄⟩ h₄
  have hprogress := ((h₁.trans h₂).trans h₃).trans h₄
  have hready := h.progress hprogress
  by_cases hcount : renderer.renderFinishedSemaphores.length = swapChain.images.length
  · have hsame : ¬ renderer.renderFinishedSemaphores.length ≠ swapChain.images.length :=
      fun hne => hne hcount
    dsimp only
    rw [if_neg hsame]
    exact ⟨⟨{ hready.built with
      images := himages
      imageViews := hviews
      renderFinishedSemaphores := hcount }, hready.slots⟩, rfl, hprogress.record⟩
  · dsimp only
    rw [if_pos hcount]
    apply (guarantees_recreating (createSemaphores_spec hV swapChain.images.length d₄)).bind
    intro ⟨semaphores, d₅⟩ ⟨hlength, hnew⟩
    refine ⟨⟨{ hready.built with
      known := ?_
      apart := ?_
      images := himages
      imageViews := hviews
      renderFinishedSemaphores := hlength }, hnew.grows.ready _ hready.slots⟩, rfl,
      hnew.grows.record.trans hprogress.record⟩
    · intro semaphore hmem
      exact hnew.grows.semaphores semaphore (hready.built.known semaphore hmem)
    · intro semaphore hmem hboth
      exact hnew.fresh semaphore hmem (hready.built.known semaphore hboth)

end Specs

end PlaygroundEngine.Renderer
