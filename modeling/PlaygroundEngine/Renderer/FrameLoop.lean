import PlaygroundEngine.Renderer.DrawFrame
import Mathlib.Data.List.MinMax

/-!
# Runs of the frame loop

Resizes, capture requests and frames in any order, up to the first frame that
ends with an error, while the queue completes submissions whenever it likes.
-/

namespace PlaygroundEngine.Renderer

open Library
set_option autoImplicit false

inductive FrameEvent where
  | requested (path : CapturePath)
  /-- A submitted frame, with the capture it took. -/
  | submitted (capture : Option CapturePath)
  deriving DecidableEq

def DrawnFrame.events {Device : Type} (frame : DrawnFrame Device) : List FrameEvent :=
  frame.submitted.toList.map .submitted

/-- The frame that ends with an error is no part of a run: the loop stops there. -/
inductive Run {Device : Type} (V : Vulkan Device) :
    List FrameEvent → RendererVulkan → Device → Prop
  | created {framebufferSize : FramebufferSize} {surfaceFormat : SurfaceFormat}
    {device after : Device} {renderer : RendererVulkan}
    (hcreate : create V framebufferSize surfaceFormat device = .ok (renderer, after)) :
    Run V [] renderer after
  | resized {history : List FrameEvent} {renderer : RendererVulkan} {device : Device}
    (hrun : Run V history renderer device) :
    Run V history renderer.notifyFramebufferResized device
  | requested {history : List FrameEvent} {renderer : RendererVulkan} {device : Device}
    (hrun : Run V history renderer device) (path : CapturePath) :
    Run V (history ++ [.requested path]) (renderer.requestCapture path) device
  | progressed {history : List FrameEvent} {renderer : RendererVulkan} {device after : Device}
    (hrun : Run V history renderer device)
    (hprogress : Progress (V.queue device) (V.queue after)) : Run V history renderer after
  | drawn {history : List FrameEvent} {renderer : RendererVulkan} {device : Device}
    {frame : DrawnFrame Device} (hrun : Run V history renderer device)
    (framebufferSize : FramebufferSize)
    (hdraw : drawFrame V framebufferSize renderer device = .ok frame) :
    Run V (history ++ frame.events) frame.renderer frame.device

/-- The request that no submitted frame and no newer request has followed. -/
def pendingRequest (history : List FrameEvent) : Option CapturePath :=
  match history.getLast? with
  | some (.requested path) => some path
  | _ => none

/-- Every submitted frame took the request that was pending. -/
def Served (history : List FrameEvent) : Prop :=
  ∀ before capture after, history = before ++ .submitted capture :: after →
    capture = pendingRequest before

theorem pendingRequest_requested (history : List FrameEvent) (path : CapturePath) :
    pendingRequest (history ++ [.requested path]) = some path := by
  rw [pendingRequest, List.getLast?_concat]

theorem pendingRequest_submitted (history : List FrameEvent) (capture : Option CapturePath) :
    pendingRequest (history ++ [.submitted capture]) = none := by
  rw [pendingRequest, List.getLast?_concat]

theorem pendingRequest_eq_some {history : List FrameEvent} {path : CapturePath}
    (h : pendingRequest history = some path) :
    ∃ earlier, history = earlier ++ [.requested path] := by
  rw [pendingRequest] at h
  split at h
  · rename_i last hlast
    cases h
    exact List.getLast?_eq_some_iff.mp hlast
  · exact absurd h.symm (Option.some_ne_none path)

theorem Served.concat {history : List FrameEvent} (h : Served history) {last : FrameEvent}
    (hlast : ∀ capture, last = .submitted capture → capture = pendingRequest history) :
    Served (history ++ [last]) := by
  intro before capture after hsplit
  rcases List.eq_nil_or_concat after with rfl | ⟨rest, final, rfl⟩
  · obtain ⟨rfl, hsame⟩ := List.append_inj' hsplit rfl
    exact hlast capture (List.cons.inj hsame).1
  · rw [List.concat_eq_append, ← List.cons_append, ← List.append_assoc] at hsplit
    obtain ⟨hhistory, _⟩ := List.append_inj' hsplit rfl
    exact h before capture rest hhistory

section Runs
variable {Device : Type} {V : Vulkan Device}

structure RunInvariant (V : Vulkan Device) (history : List FrameEvent) (renderer : RendererVulkan)
    (device : Device) : Prop where
  ready : Ready V renderer device
  pending : renderer.pendingCapturePath = pendingRequest history
  served : Served history

theorem RunInvariant.drawn (hV : V.Conforms) {history : List FrameEvent}
    {renderer : RendererVulkan} {device : Device} {frame : DrawnFrame Device}
    (h : RunInvariant V history renderer device) {framebufferSize : FramebufferSize}
    (hdraw : drawFrame V framebufferSize renderer device = .ok frame) :
    RunInvariant V (history ++ frame.events) frame.renderer frame.device := by
  obtain ⟨hready, hcapture, _⟩ := (drawFrame_spec hV h.ready framebufferSize).result hdraw
  refine ⟨hready, ?_, ?_⟩
  · cases hsubmitted : frame.submitted with
    | none =>
      rw [hsubmitted] at hcapture
      rw [DrawnFrame.events, hsubmitted, Option.toList_none, List.map_nil, List.append_nil]
      exact hcapture.trans h.pending
    | some capture =>
      rw [hsubmitted] at hcapture
      rw [DrawnFrame.events, hsubmitted, Option.toList_some, List.map_singleton,
        pendingRequest_submitted]
      exact hcapture.2
  · cases hsubmitted : frame.submitted with
    | none =>
      rw [DrawnFrame.events, hsubmitted, Option.toList_none, List.map_nil, List.append_nil]
      exact h.served
    | some capture =>
      rw [hsubmitted] at hcapture
      rw [DrawnFrame.events, hsubmitted, Option.toList_some, List.map_singleton]
      apply h.served.concat
      intro other hother
      cases hother
      exact hcapture.1.trans h.pending

theorem Run.invariant (hV : V.Conforms) {history : List FrameEvent} {renderer : RendererVulkan}
    {device : Device} (h : Run V history renderer device) :
    RunInvariant V history renderer device := by
  induction h with
  | created hcreate =>
    obtain ⟨hready, hnone⟩ := (create_spec hV _ _ _).result hcreate
    refine ⟨hready, hnone, fun before capture after hsplit => ?_⟩
    exact absurd hsplit.symm (List.append_ne_nil_of_right_ne_nil _ (List.cons_ne_nil _ _))
  | resized _ ih => exact ⟨⟨{ ih.ready.built with }, ih.ready.slots⟩, ih.pending, ih.served⟩
  | requested _ path ih =>
    refine ⟨⟨{ ih.ready.built with }, ih.ready.slots⟩, ?_, ?_⟩
    · rw [pendingRequest_requested]
      rfl
    · exact ih.served.concat fun capture h => FrameEvent.noConfusion h
  | progressed _ hprogress ih => exact ⟨ih.ready.progress hprogress, ih.pending, ih.served⟩
  | drawn _ _ hdraw ih => exact ih.drawn hV hdraw

/-- What holds in every state a run reaches. -/
structure FramesSafe (V : Vulkan Device) (history : List FrameEvent) (renderer : RendererVulkan)
    (device : Device) : Prop where
  frameIndex : renderer.frameIndex < maxFramesInFlight
  imageViews : renderer.swapChainImageViews.length = renderer.swapChainImages.length
  renderFinishedSemaphores :
    renderer.renderFinishedSemaphores.length = renderer.swapChainImages.length
  /-- The fence that the next frame waits for. -/
  waitable : ∀ fence, renderer.inFlightFences[renderer.frameIndex]? = some fence →
    (V.queue device).signalled fence ∨
      ∃ submission ∈ (V.queue device).pending, submission.fence = fence
  /-- Once that wait has ended, nothing is under way on the semaphore for the acquire. -/
  semaphoreIdle : ∀ fence semaphore after,
    renderer.inFlightFences[renderer.frameIndex]? = some fence →
    renderer.presentCompleteSemaphores[renderer.frameIndex]? = some semaphore →
    waitForFences V fence device = .ok after → (V.queue after).idle semaphore
  acquiredInRange : ∀ semaphore before result imageIndex after,
    V.acquireNextImage renderer.swapChain semaphore before = ((result, imageIndex), after) →
    result = .success ∨ result = .suboptimal → imageIndex < renderer.swapChainImages.length
  /-- No frame waits without end, hands over a semaphore or fence in use, or reads outside
  of a vector, the acquired image's entries included. -/
  unbroken : ∀ framebufferSize violation,
    drawFrame V framebufferSize renderer device ≠ .error (.violation violation)
  /-- A frame told of as submitted was handed to the driver, and of captures no more than the one
  it took. -/
  calls : ∀ framebufferSize frame, drawFrame V framebufferSize renderer device = .ok frame →
    ∃ calls, (V.queue frame.device).record = (V.queue device).record ++ calls ∧
      FrameCalls renderer frame.submitted calls
  /-- The first frame submitted after a request takes it, unless a newer request comes first. -/
  taken : ∀ before path capture after,
    history = before ++ .requested path :: .submitted capture :: after → capture = some path
  /-- No other frame takes it. -/
  takenOnce : ∀ before path after, history = before ++ .submitted (some path) :: after →
    ∃ earlier, before = earlier ++ [.requested path]

theorem Run.framesSafe (hV : V.Conforms) {history : List FrameEvent} {renderer : RendererVulkan}
    {device : Device} (h : Run V history renderer device) :
    FramesSafe V history renderer device := by
  have hinvariant := h.invariant hV
  have hbuilt := hinvariant.ready.built
  have hslots := hinvariant.ready.slots
  have hwaitable : ∀ fence, renderer.inFlightFences[renderer.frameIndex]? = some fence →
      (V.queue device).waitable fence := by
    intro fence hfence
    have hsemaphore := hbuilt.frameIndex_lt hbuilt.presentCompleteSemaphores
    exact hslots.waitable _ (mem_slots hfence (List.getElem?_eq_getElem hsemaphore))
  refine ⟨hbuilt.frameIndex, hbuilt.imageViews, hbuilt.renderFinishedSemaphores, ?_, ?_, ?_, ?_,
    ?_, ?_, ?_⟩
  · intro fence hfence
    rw [← QueueState.waitable_iff]
    exact hwaitable fence hfence
  · intro fence semaphore after hfence hsemaphore hwait
    obtain ⟨hprogress, hunused⟩ := (waitForFences_spec hV (hwaitable fence hfence)).result hwait
    exact (hslots.progress hprogress).idle (mem_slots hfence hsemaphore) hunused
  · intro semaphore before result imageIndex after hcall hresult
    rw [hbuilt.images]
    exact (hV.acquired _ semaphore before result imageIndex after hcall hresult).1
  · intro framebufferSize violation hviolation
    exact (drawFrame_spec hV hinvariant.ready framebufferSize).not_fault hviolation trivial
  · intro framebufferSize frame hdraw
    exact ((drawFrame_spec hV hinvariant.ready framebufferSize).result hdraw).2.2
  · intro before path capture after hsplit
    rw [hinvariant.served (before ++ [.requested path]) capture after
      (hsplit.trans (List.append_cons _ _ _)), pendingRequest_requested]
  · intro before path after hsplit
    exact pendingRequest_eq_some (hinvariant.served before (some path) after hsplit).symm

end Runs

structure LazyDevice where
  queue : Queue := ⟨fun _ => false, fun _ => false, [], [], []⟩
  created : Nat := 0

namespace LazyDevice

def complete (device : LazyDevice) : LazyDevice :=
  { device with queue := { device.queue with
      signalled := device.queue.waitable
      pending := [] } }

def newSemaphore (device : LazyDevice) : VkSemaphore :=
  (device.queue.semaphores ++ device.queue.pending.map (·.waits)).foldr max 0 + 1

/-- Three images, and every call that can succeed does. -/
def vulkan : Vulkan LazyDevice where
  queue := queue
  images _ := [0, 1, 2]
  waitForFences fence device :=
    if device.queue.waitable fence then (.success, device.complete) else (.other 2, device)
  acquireNextImage _ semaphore device :=
    ((.success, 0), { device with queue := device.queue.signal semaphore })
  resetFences fence device := (.ok (), { device with queue := device.queue.reset fence })
  resetCommandBuffer _ device := (.ok (), device)
  beginCommandBuffer _ device := (.ok (), device)
  endCommandBuffer _ device := (.ok (), device)
  submit submission _ signals device :=
    (.ok (), { device with queue :=
        ((device.queue.submit submission).signal signals).note (.submitted submission) })
  presentKHR semaphore _ _ device :=
    (.success, { device with queue := device.queue.consume semaphore })
  waitIdle device := (.ok (), device.complete)
  getSurfaceCapabilities device := (.ok ⟨2, 8, ⟨1, 1⟩, ⟨4096, 4096⟩, true⟩, device)
  getSurfacePresentModes device := (.ok [.fifo], device)
  createSwapchain _ device := (.ok device.created, { device with created := device.created + 1 })
  getImages _ device := (.ok [0, 1, 2], device)
  createImageView image device := (.ok image, device)
  createSemaphore device :=
    (.ok device.newSemaphore,
      { device with queue := device.queue.addSemaphore device.newSemaphore })
  createSignaledFence device :=
    (.ok device.created,
      { device with
        queue := device.queue.addSignalledFence device.created
        created := device.created + 1 })
  allocateCommandBuffers count device := (.ok (List.range count), device)
  createMultisampleColorResources _ device := (.ok (), device)
  createDepthResources _ device := (.ok (), device)
  readImageToHost image _ device :=
    (.ok [], { device with queue := device.queue.note (.readBack image) })
  writeCapture pixels _ path device :=
    (.ok (), { device with queue := device.queue.note (.wrote pixels path) })

theorem complete_progress (device : LazyDevice) : Progress device.queue device.complete.queue where
  kept fence h := (device.queue.waitable_iff fence).mpr (Or.inl h)
  signals _ h := h
  shrinks _ h := absurd h List.not_mem_nil
  completes submission h _ := (device.queue.waitable_iff _).mpr (Or.inr ⟨submission, h, rfl⟩)
  outstanding _ := rfl
  semaphores := rfl
  record := rfl

theorem lt_newSemaphore (device : LazyDevice) {semaphore : VkSemaphore}
    (h : semaphore ∈ device.queue.semaphores ++ device.queue.pending.map (·.waits)) :
    semaphore < device.newSemaphore := by
  rw [newSemaphore, Nat.lt_succ_iff]
  exact List.le_max_of_le' 0 h (Nat.le_refl semaphore)

theorem quiet_id {α : Type} (value : α) : Quiet vulkan fun device => (value, device) :=
  fun _ => Progress.refl _

theorem conforms : vulkan.Conforms where
  waitForFences fence device := by
    show Progress device.queue
      (if device.queue.waitable fence then _ else _ : _ × LazyDevice).2.queue
    split
    · exact device.complete_progress
    · exact Progress.refl _
  waited fence device after h := by
    change (if device.queue.waitable fence then (_, device.complete) else (_, device)) = _ at h
    split at h
    · rename_i hwaitable
      cases h
      exact ⟨hwaitable, rfl⟩
    · cases h
  acquired swapChain semaphore device result imageIndex after h hresult := by
    cases h
    exact ⟨Nat.zero_lt_succ 2, Progress.refl _⟩
  notAcquired swapChain semaphore device result imageIndex after h hresult := by
    cases h
    exact absurd (Or.inl rfl) hresult
  resetFences fence device after h := by
    cases h
    exact Progress.refl _
  resetCommandBuffer _ := quiet_id _
  beginCommandBuffer _ := quiet_id _
  endCommandBuffer _ := quiet_id _
  submit submission commandBuffer signals device after h := by
    cases h
    exact Progress.refl _
  presentKHR semaphore swapChain imageIndex device := Or.inr (Progress.refl _)
  waitIdle device after h := by
    cases h
    exact device.complete_progress
  waitFailed device error after h := by cases h
  getSurfaceCapabilities := quiet_id _
  getSurfacePresentModes := quiet_id _
  createSwapchain _ _ := Progress.refl _
  getImages _ := quiet_id _
  gotImages swapChain device images after h := by
    cases h
    rfl
  createImageView _ := quiet_id _
  createSemaphore device semaphore after h := by
    cases h
    refine ⟨fun hmem => ?_, fun submission hmem hwaits => ?_, Progress.refl _⟩
    · exact Nat.lt_irrefl _ (device.lt_newSemaphore (List.mem_append_left _ hmem))
    · apply Nat.lt_irrefl device.newSemaphore
      apply device.lt_newSemaphore
      exact List.mem_append_right _ (List.mem_map.mpr ⟨submission, hmem, hwaits⟩)
  createSignaledFence device fence after h := by
    cases h
    exact Progress.refl _
  allocateCommandBuffers _ := quiet_id _
  allocatedCommandBuffers count device commandBuffers after h := by
    cases h
    exact List.length_range
  createMultisampleColorResources _ := quiet_id _
  createDepthResources _ := quiet_id _
  readImageToHost _ _ _ := Progress.refl _
  writeCapture _ _ _ _ := Progress.refl _

end LazyDevice

def windowSize : FramebufferSize := ⟨640, 480⟩

/-- One frame, with a capture requested before it. -/
theorem framesSafe_capture : ∃ renderer device,
    FramesSafe LazyDevice.vulkan [.requested [65], .submitted (some [65])] renderer device := by
  have hrun : ∃ renderer device,
      Run LazyDevice.vulkan [.requested [65], .submitted (some [65])] renderer device :=
    ⟨_, _, Run.drawn (Run.requested (Run.created (rfl : create LazyDevice.vulkan windowSize
      .b8g8r8a8 {} = .ok _)) [65]) windowSize rfl⟩
  obtain ⟨renderer, device, hrun⟩ := hrun
  exact ⟨renderer, device, hrun.framesSafe LazyDevice.conforms⟩

end PlaygroundEngine.Renderer
