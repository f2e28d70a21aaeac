import PlaygroundEngine.Renderer.SwapChain

/-!
# Drawing one frame

`drawFrame` with each of its exits. The calls whose rules the caller has to keep
are guarded by a check of the rule, so a broken rule is an outcome of its own.
-/

namespace PlaygroundEngine.Renderer

open Library
set_option autoImplicit false

structure DrawnFrame (Device : Type) where
  renderer : RendererVulkan
  device : Device
  /-- The capture that the submitted frame took, if a frame was submitted. -/
  submitted : Option (Option CapturePath) := none

section Calls
variable {Device : Type} (V : Vulkan Device)

def waitForFences (fence : VkFence) (device : Device) : Except Stop Device :=
  if (V.queue device).waitable fence then
    match V.waitForFences fence device with
    | (.success, device) => .ok device
    | (_, _) => .error (.error .fenceWaitError)
  else .error (.violation .endlessWait)

def acquireNextImage (swapChain : VkSwapchain) (semaphore : VkSemaphore) (device : Device) :
    Except Stop ((VkResult × Nat) × Device) :=
  if (V.queue device).idle semaphore then .ok (V.acquireNextImage swapChain semaphore device)
  else .error (.violation .semaphoreInUse)

def resetFences (fence : VkFence) (device : Device) : Except Stop (Unit × Device) :=
  if (V.queue device).unused fence then
    attempt (.error .fenceResetError) (V.resetFences fence device)
  else .error (.violation .fenceInUse)

def submit (submission : Submission VkFence VkSemaphore) (commandBuffer : VkCommandBuffer)
    (signals : VkSemaphore) (device : Device) : Except Stop (Unit × Device) :=
  if (V.queue device).unused submission.fence ∧ ¬ (V.queue device).signalled submission.fence then
    attempt (.error .queueSubmitError) (V.submit submission commandBuffer signals device)
  else .error (.violation .fenceInUse)

/-- The draws between the two barriers are left out. -/
def recordCommandBuffer (renderer : RendererVulkan) (imageIndex : Nat) (device : Device) :
    Except Stop (Unit × Device) := do
  let commandBuffer ← atIndex renderer.commandBuffers renderer.frameIndex
  let (_, device) ←
    attempt (.error .commandBufferBeginError) (V.beginCommandBuffer commandBuffer device)
  let _ ← atIndex renderer.swapChainImages imageIndex
  let _ ← atIndex renderer.swapChainImageViews imageIndex
  attempt (.error .commandBufferEndError) (V.endCommandBuffer commandBuffer device)

/-- The pixels as the file holds them: red first, and opaque. -/
def capturedPixels (swapRedAndBlue : Bool) : Bytes → Bytes
  | red :: green :: blue :: _ :: rest =>
    let (red, blue) := if swapRedAndBlue then (blue, red) else (red, blue)
    red :: green :: blue :: 255 :: capturedPixels swapRedAndBlue rest
  | rest => rest

def captureSwapChainImage (renderer : RendererVulkan) (imageIndex : Nat) (path : CapturePath)
    (device : Device) : Except Stop (Answer RendererCreationErrorKind Unit Device) := do
  if ¬ renderer.swapChainSupportsTransferSource then
    return (.error .swapChainTransferSourceUnsupported, device)
  if renderer.swapChainSurfaceFormat = .other then
    return (.error .captureFormatUnsupported, device)
  let image ← atIndex renderer.swapChainImages imageIndex
  match V.readImageToHost image renderer.swapChainExtent device with
  | (.error kind, device) => return (.error kind, device)
  | (.ok pixels, device) =>
    let pixels := capturedPixels (renderer.swapChainSurfaceFormat = .b8g8r8a8) pixels
    return V.writeCapture pixels renderer.swapChainExtent path device

/-- A request is served once, whether or not the capture works; a failure is only logged. -/
def serviceCapture (renderer : RendererVulkan) (imageIndex : Nat) (device : Device) :
    Except Stop ((RendererVulkan × Option CapturePath) × Device) := do
  match renderer.pendingCapturePath with
  | none => return ((renderer, none), device)
  | some capturePath =>
    let renderer := { renderer with pendingCapturePath := none }
    match V.waitIdle device with
    | (.error _, device) => return ((renderer, some capturePath), device)
    | (.ok _, device) =>
      let (_, device) ← captureSwapChainImage V renderer imageIndex capturePath device
      return ((renderer, some capturePath), device)

/-- From the reset of the fence, when the frame is certain to be submitted, to the submit. -/
def submitFrame (renderer : RendererVulkan) (imageIndex : Nat)
    (inFlightFence : VkFence) (presentCompleteSemaphore : VkSemaphore) (device : Device) :
    Except Stop (VkSemaphore × Device) := do
  let (_, device) ← resetFences V inFlightFence device
  let commandBuffer ← atIndex renderer.commandBuffers renderer.frameIndex
  let (_, device) ←
    attempt (.error .unableToResetCommandBuffer) (V.resetCommandBuffer commandBuffer device)
  let (_, device) ← recordCommandBuffer V renderer imageIndex device
  let renderFinishedSemaphore ← atIndex renderer.renderFinishedSemaphores imageIndex
  let (_, device) ← submit V ⟨presentCompleteSemaphore, inFlightFence⟩ commandBuffer
    renderFinishedSemaphore device
  return (renderFinishedSemaphore, device)

def presentFrame (framebufferSize : FramebufferSize) (renderer : RendererVulkan) (imageIndex : Nat)
    (renderFinishedSemaphore : VkSemaphore) (capture : Option CapturePath) (device : Device) :
    Except Stop (DrawnFrame Device) := do
  let (presentResult, device) :=
    V.presentKHR renderFinishedSemaphore renderer.swapChain imageIndex device
  let renderer := { renderer with frameIndex := (renderer.frameIndex + 1) % maxFramesInFlight }
  if presentResult = .outOfDate ∨ presentResult = .suboptimal ∨ renderer.framebufferResized then
    let (renderer, device) ←
      recreateSwapChain V framebufferSize { renderer with framebufferResized := false } device
    return ⟨renderer, device, some capture⟩
  if presentResult ≠ .success then throw (.error .queuePresentError)
  return ⟨renderer, device, some capture⟩

def drawFrame (framebufferSize : FramebufferSize) (renderer : RendererVulkan) (device : Device) :
    Except Stop (DrawnFrame Device) := do
  if framebufferSize.width = 0 ∨ framebufferSize.height = 0 then
    return { renderer, device }
  let inFlightFence ← atIndex renderer.inFlightFences renderer.frameIndex
  let device ← waitForFences V inFlightFence device
  let presentCompleteSemaphore ← atIndex renderer.presentCompleteSemaphores renderer.frameIndex
  let ((acquireNextImageResult, imageIndex), device) ←
    acquireNextImage V renderer.swapChain presentCompleteSemaphore device
  if acquireNextImageResult = .outOfDate then
    let (renderer, device) ← recreateSwapChain V framebufferSize renderer device
    return { renderer, device }
  if ¬ (acquireNextImageResult = .success ∨ acquireNextImageResult = .suboptimal) then
    throw (.error .unableToAcquireSwapChainImage)
  let (renderFinishedSemaphore, device) ←
    submitFrame V renderer imageIndex inFlightFence presentCompleteSemaphore device
  let ((renderer, capture), device) ← serviceCapture V renderer imageIndex device
  presentFrame V framebufferSize renderer imageIndex renderFinishedSemaphore capture device

end Calls

def RendererVulkan.notifyFramebufferResized (renderer : RendererVulkan) : RendererVulkan :=
  { renderer with framebufferResized := true }

/-- A request that no frame has served yet is displaced. -/
def RendererVulkan.requestCapture (renderer : RendererVulkan) (path : CapturePath) :
    RendererVulkan :=
  { renderer with pendingCapturePath := some path }

/-- What a capture asks of the driver, from a swap chain with these images. -/
inductive CaptureCalls (transferSource : Bool) (surfaceFormat : SurfaceFormat)
    (images : List VkImage) : Option CapturePath → List DriverCall → Prop
  | none : CaptureCalls transferSource surfaceFormat images none []
  | waitFailed (path : CapturePath) :
    CaptureCalls transferSource surfaceFormat images (some path) [.waitFailed]
  | unreadable (path : CapturePath) : transferSource = false ∨ surfaceFormat = .other →
    CaptureCalls transferSource surfaceFormat images (some path) []
  | readFailed (path : CapturePath) {image : VkImage} : image ∈ images →
    CaptureCalls transferSource surfaceFormat images (some path) [.readBack image]
  | written (path : CapturePath) (pixels : Bytes) {image : VkImage} : image ∈ images →
    CaptureCalls transferSource surfaceFormat images (some path)
      [.readBack image, .wrote (capturedPixels (surfaceFormat = .b8g8r8a8) pixels) path]

/-- What a frame asks of the driver: it is submitted, with or without a capture, or not at all. -/
inductive FrameCalls (renderer : RendererVulkan) :
    Option (Option CapturePath) → List DriverCall → Prop
  | notSubmitted : FrameCalls renderer none []
  | submitted {waits : VkSemaphore} {fence : VkFence} {capture : Option CapturePath}
    {calls : List DriverCall} :
    renderer.presentCompleteSemaphores[renderer.frameIndex]? = some waits →
    renderer.inFlightFences[renderer.frameIndex]? = some fence →
    CaptureCalls renderer.swapChainSupportsTransferSource renderer.swapChainSurfaceFormat
      renderer.swapChainImages capture calls →
    FrameCalls renderer (some capture) (.submitted ⟨waits, fence⟩ :: calls)

section Guards
variable {Device : Type} {V : Vulkan Device} (hV : V.Conforms)
include hV

theorem waitForFences_spec {fence : VkFence} {device : Device}
    (hwaitable : (V.queue device).waitable fence) :
    Guarantees Stop.IsViolation (waitForFences V fence device) fun after =>
      Progress (V.queue device) (V.queue after) ∧ (V.queue after).unused fence := by
  rw [waitForFences, if_pos hwaitable]
  split
  · rename_i after hcall
    exact Guarantees.pure
      ⟨(hV.waitForFences fence).after hcall, (hV.waited fence device after hcall).2⟩
  · exact Guarantees.stop (Stop.error_expected _)

omit hV in
theorem acquireNextImage_spec {swapChain : VkSwapchain} {semaphore : VkSemaphore} {device : Device}
    (hidle : (V.queue device).idle semaphore) :
    Guarantees Stop.IsViolation (acquireNextImage V swapChain semaphore device) fun answer =>
      V.acquireNextImage swapChain semaphore device = answer := by
  rw [acquireNextImage, if_pos hidle]
  exact Guarantees.pure rfl

theorem resetFences_spec {slots : List (VkFence × VkSemaphore)} {slot : VkFence × VkSemaphore}
    {device : Device} (hturn : SlotsTurn slots slot (V.queue device)) :
    Guarantees Stop.IsViolation (resetFences V slot.1 device) fun result =>
      SlotsTurn slots slot (V.queue result.2) ∧ ¬ (V.queue result.2).signalled slot.1 ∧
        (V.queue result.2).semaphores = (V.queue device).semaphores ∧
        (V.queue result.2).record = (V.queue device).record := by
  rw [resetFences, if_pos hturn.unused]
  apply guarantees_attempt (Stop.error_expected _)
  intro _ after hcall
  have hprogress := hV.resetFences slot.1 device after hcall
  have hreset : ¬ ((V.queue device).reset slot.1).signalled slot.1 := by
    rw [QueueState.signalled_reset, if_pos rfl]
    exact Bool.false_ne_true
  exact ⟨hturn.reset.progress hprogress, hprogress.unsignalled hturn.unused hreset,
    hprogress.semaphores, hprogress.record⟩

theorem recordCommandBuffer_spec {renderer : RendererVulkan} {imageIndex : Nat} {device : Device}
    (hbuilt : Built V renderer (V.queue device))
    (himage : imageIndex < renderer.swapChainImages.length) :
    Guarantees Stop.IsViolation (recordCommandBuffer V renderer imageIndex device) fun result =>
      Progress (V.queue device) (V.queue result.2) := by
  apply (guarantees_atIndex (hbuilt.frameIndex_lt hbuilt.commandBuffers) fun _ _ => trivial).bind
  intro commandBuffer _
  apply ((hV.beginCommandBuffer commandBuffer).attempt (Stop.error_expected _) device).bind
  intro ⟨_, d₁⟩ h₁
  apply (guarantees_atIndex himage fun _ _ => trivial).bind
  intro _ _
  apply (guarantees_atIndex (hbuilt.imageViews ▸ himage) fun _ _ => trivial).bind
  intro _ _
  exact ((hV.endCommandBuffer commandBuffer).attempt (Stop.error_expected _) d₁).mono
    fun _ h => h₁.trans h

theorem submit_spec {renderer : RendererVulkan} {slot : VkFence × VkSemaphore} {device : Device}
    (hbuilt : Built V renderer (V.queue device)) (hslot : slot ∈ renderer.slots)
    (hturn : SlotsTurn renderer.slots slot (V.queue device))
    (hunsignalled : ¬ (V.queue device).signalled slot.1) {signals : VkSemaphore}
    (hsignals : signals ∈ renderer.renderFinishedSemaphores) (commandBuffer : VkCommandBuffer) :
    Guarantees Stop.IsViolation (submit V ⟨slot.2, slot.1⟩ commandBuffer signals device)
      fun result => Ready V renderer result.2 ∧ (V.queue result.2).record =
        (V.queue device).record ++ [.submitted ⟨slot.2, slot.1⟩] := by
  rw [submit, if_pos ⟨hturn.unused, hunsignalled⟩]
  apply guarantees_attempt (Stop.error_expected _)
  intro _ after hcall
  have hprogress := hV.submit _ commandBuffer signals device after hcall
  have hnodup : (renderer.slots.map Prod.snd).Nodup := by
    rw [map_snd_slots hbuilt]
    exact hbuilt.nodup
  have hother : ∀ other ∈ renderer.slots, other.2 ≠ signals := by
    intro other hother hsame
    apply hbuilt.apart signals hsignals
    rw [← hsame, ← map_snd_slots hbuilt]
    exact List.mem_map_of_mem hother
  exact ⟨⟨hbuilt.of_semaphores hprogress.semaphores,
    (((hturn.submit hnodup hslot).signalOther hother).note _).progress hprogress⟩, hprogress.record⟩

theorem submitFrame_spec {renderer : RendererVulkan} {imageIndex : Nat}
    {slot : VkFence × VkSemaphore} {device : Device} (hbuilt : Built V renderer (V.queue device))
    (hslot : slot ∈ renderer.slots) (hturn : SlotsTurn renderer.slots slot (V.queue device))
    (himage : imageIndex < renderer.swapChainImages.length) :
    Guarantees Stop.IsViolation (submitFrame V renderer imageIndex slot.1 slot.2 device)
      fun result => Ready V renderer result.2 ∧ (V.queue result.2).record =
        (V.queue device).record ++ [.submitted ⟨slot.2, slot.1⟩] := by
  apply (resetFences_spec hV hturn).bind
  intro ⟨_, d₁⟩ ⟨hturn₁, hunsignalled₁, hsemaphores₁, hrecord₁⟩
  apply (guarantees_atIndex (hbuilt.frameIndex_lt hbuilt.commandBuffers) fun _ _ => trivial).bind
  intro commandBuffer _
  apply ((hV.resetCommandBuffer commandBuffer).attempt (Stop.error_expected _) d₁).bind
  intro ⟨_, d₂⟩ h₂
  have hbuilt₂ : Built V renderer (V.queue d₂) :=
    hbuilt.of_semaphores (h₂.semaphores.trans hsemaphores₁)
  apply (recordCommandBuffer_spec hV hbuilt₂ himage).bind
  intro ⟨_, d₃⟩ h₃
  have hprogress := h₂.trans h₃
  have hturn₃ := hturn₁.progress hprogress
  have hunsignalled₃ := hprogress.unsignalled hturn₁.unused hunsignalled₁
  have hfinished : imageIndex < renderer.renderFinishedSemaphores.length := by
    rw [hbuilt.renderFinishedSemaphores]
    exact himage
  apply (guarantees_atIndex hfinished fun semaphore h => List.mem_of_getElem? h).bind
  intro renderFinishedSemaphore hmem
  apply (submit_spec hV (hbuilt₂.of_semaphores h₃.semaphores) hslot hturn₃ hunsignalled₃ hmem
    commandBuffer).bind
  intro ⟨_, after⟩ ⟨hready, hrecord⟩
  exact Guarantees.pure ⟨hready, (hprogress.record.trans hrecord₁) ▸ hrecord⟩

theorem captureSwapChainImage_spec {renderer : RendererVulkan} {imageIndex : Nat} {device : Device}
    (hready : Ready V renderer device) (himage : imageIndex < renderer.swapChainImages.length)
    (path : CapturePath) :
    Guarantees Stop.IsViolation (captureSwapChainImage V renderer imageIndex path device)
      fun result => Ready V renderer result.2 ∧
        ∃ calls, (V.queue result.2).record = (V.queue device).record ++ calls ∧
          CaptureCalls renderer.swapChainSupportsTransferSource renderer.swapChainSurfaceFormat
            renderer.swapChainImages (some path) calls := by
  rw [captureSwapChainImage]
  split
  · rename_i hsource
    exact Guarantees.pure ⟨hready, [], (List.append_nil _).symm,
      .unreadable path (Or.inl (Bool.eq_false_of_not_eq_true hsource))⟩
  · split
    · rename_i hformat
      exact Guarantees.pure ⟨hready, [], (List.append_nil _).symm,
        .unreadable path (Or.inr hformat)⟩
    · apply (guarantees_atIndex himage fun _ h => List.mem_of_getElem? h).bind
      intro image hmem
      have hread := hV.readImageToHost image renderer.swapChainExtent device
      split
      · rename_i hcall
        rw [hcall] at hread
        exact Guarantees.pure ⟨hready.noted hread, _, hread.record,
          .readFailed path hmem⟩
      · rename_i pixels after hcall
        rw [hcall] at hread
        have hready' := hready.noted hread
        have hwrite := hV.writeCapture
          (capturedPixels (renderer.swapChainSurfaceFormat = .b8g8r8a8) pixels)
          renderer.swapChainExtent path after
        refine Guarantees.pure ⟨hready'.noted hwrite, _, ?_, .written path pixels hmem⟩
        rw [hwrite.record, QueueState.note, hread.record, QueueState.note, List.append_assoc]
        rfl

theorem serviceCapture_spec {renderer : RendererVulkan} {imageIndex : Nat} {device : Device}
    (hready : Ready V renderer device) (himage : imageIndex < renderer.swapChainImages.length) :
    Guarantees Stop.IsViolation (serviceCapture V renderer imageIndex device) fun result =>
      Ready V result.1.1 result.2 ∧ result.1.1.pendingCapturePath = none ∧
        result.1.2 = renderer.pendingCapturePath ∧
        ∃ calls, (V.queue result.2).record = (V.queue device).record ++ calls ∧
          CaptureCalls renderer.swapChainSupportsTransferSource renderer.swapChainSurfaceFormat
            renderer.swapChainImages result.1.2 calls := by
  rw [serviceCapture]
  cases hpending : renderer.pendingCapturePath with
  | none => exact Guarantees.pure ⟨hready, hpending, rfl, [], (List.append_nil _).symm, .none⟩
  | some capturePath =>
    have hserved : Ready V { renderer with pendingCapturePath := none } device :=
      ⟨{ hready.built with }, hready.slots⟩
    dsimp only
    split
    · rename_i hcall
      have hwait := hV.waitFailed device _ _ hcall
      exact Guarantees.pure ⟨hserved.noted hwait, rfl, rfl, _, hwait.record,
        .waitFailed capturePath⟩
    · rename_i after hcall
      have hwait := hV.waitIdle device after hcall
      have himage' : imageIndex <
          { renderer with pendingCapturePath := none : RendererVulkan }.swapChainImages.length :=
        himage
      apply (captureSwapChainImage_spec hV (hserved.progress hwait) himage' capturePath).bind
      intro ⟨_, last⟩ ⟨hlast, calls, hrecord, hcalls⟩
      rw [hwait.record] at hrecord
      exact Guarantees.pure ⟨hlast, rfl, rfl, calls, hrecord, hcalls⟩

theorem presentFrame_spec {renderer : RendererVulkan} {device : Device}
    (hready : Ready V renderer device) (framebufferSize : FramebufferSize) (imageIndex : Nat)
    (renderFinishedSemaphore : VkSemaphore) (capture : Option CapturePath) :
    Guarantees Stop.IsViolation
      (presentFrame V framebufferSize renderer imageIndex renderFinishedSemaphore capture device)
      fun frame => Ready V frame.renderer frame.device ∧ frame.submitted = some capture ∧
        frame.renderer.pendingCapturePath = renderer.pendingCapturePath ∧
        (V.queue frame.device).record = (V.queue device).record := by
  have hpresent : ∀ resized : Bool, Ready V { renderer with
      frameIndex := (renderer.frameIndex + 1) % maxFramesInFlight
      framebufferResized := resized }
      (V.presentKHR renderFinishedSemaphore renderer.swapChain imageIndex device).2 := by
    intro resized
    have hindex : (renderer.frameIndex + 1) % maxFramesInFlight < maxFramesInFlight :=
      Nat.mod_lt _ Nat.zero_lt_two
    rcases hV.presentKHR renderFinishedSemaphore renderer.swapChain imageIndex device with
      hprogress | hprogress
    · have hafter := hready.progress hprogress
      exact ⟨{ hafter.built with frameIndex := hindex }, hafter.slots⟩
    · exact ⟨{ hready.built.of_semaphores hprogress.semaphores with frameIndex := hindex },
        (hready.slots.consume renderFinishedSemaphore).progress hprogress⟩
  have hrecord : (V.queue (V.presentKHR renderFinishedSemaphore renderer.swapChain imageIndex
      device).2).record = (V.queue device).record := by
    rcases hV.presentKHR renderFinishedSemaphore renderer.swapChain imageIndex device with
      hprogress | hprogress
    · exact hprogress.record
    · exact hprogress.record
  rw [presentFrame]
  dsimp only
  split
  · apply (recreateSwapChain_spec hV (hpresent false) framebufferSize).bind
    intro ⟨after, last⟩ ⟨hafter, hpending, hlast⟩
    exact Guarantees.pure ⟨hafter, rfl, hpending, hlast.trans hrecord⟩
  · split
    · exact Guarantees.stop (Stop.error_expected _)
    · exact Guarantees.pure ⟨hpresent renderer.framebufferResized, rfl, rfl, hrecord⟩

/-- Whatever the driver answers, a frame breaks no rule and leaves the renderer ready; it
serves the pending request if and only if it is submitted, and asks the driver for no more. -/
theorem drawFrame_spec {renderer : RendererVulkan} {device : Device}
    (hready : Ready V renderer device) (framebufferSize : FramebufferSize) :
    Guarantees Stop.IsViolation (drawFrame V framebufferSize renderer device) fun frame =>
      Ready V frame.renderer frame.device ∧
        (match frame.submitted with
        | none => frame.renderer.pendingCapturePath = renderer.pendingCapturePath
        | some capture =>
          capture = renderer.pendingCapturePath ∧ frame.renderer.pendingCapturePath = none) ∧
        ∃ calls, (V.queue frame.device).record = (V.queue device).record ++ calls ∧
          FrameCalls renderer frame.submitted calls := by
  have hbuilt := hready.built
  rw [drawFrame]
  split
  · exact Guarantees.pure ⟨hready, rfl, [], (List.append_nil _).symm, .notSubmitted⟩
  · have hfence := hbuilt.frameIndex_lt hbuilt.inFlightFences
    have hsemaphore := hbuilt.frameIndex_lt hbuilt.presentCompleteSemaphores
    obtain ⟨presentCompleteSemaphore, hsemaphoreAt⟩ :
        ∃ semaphore, renderer.presentCompleteSemaphores[renderer.frameIndex]? = some semaphore :=
      ⟨_, List.getElem?_eq_getElem hsemaphore⟩
    apply (guarantees_atIndex hfence fun _ h => h).bind
    intro inFlightFence hfenceAt
    have hslot : (inFlightFence, presentCompleteSemaphore) ∈ renderer.slots :=
      mem_slots hfenceAt hsemaphoreAt
    apply (waitForFences_spec hV (hready.slots.waitable _ hslot)).bind
    intro d₁ ⟨hprogress₁, hunused⟩
    have hready₁ := hready.progress hprogress₁
    apply (guarantees_atIndex hsemaphore fun _ h =>
      Option.some_inj.mp (hsemaphoreAt.symm.trans h)).bind
    rintro _ rfl
    apply (acquireNextImage_spec (hready₁.slots.idle hslot hunused)).bind
    intro ⟨⟨result, imageIndex⟩, d₂⟩ hcall
    dsimp only
    split
    · rename_i houtOfDate
      have hnot : ¬ (result = .success ∨ result = .suboptimal) := by
        rw [houtOfDate]
        rintro (h | h)
        · exact VkResult.noConfusion h
        · exact VkResult.noConfusion h
      have hprogress₂ := hV.notAcquired _ _ _ _ _ _ hcall hnot
      apply (recreateSwapChain_spec hV (hready₁.progress hprogress₂) framebufferSize).bind
      intro ⟨after, last⟩ ⟨hafter, hpending, hrecord⟩
      rw [hprogress₂.record, hprogress₁.record] at hrecord
      exact Guarantees.pure ⟨hafter, hpending, [], hrecord.trans (List.append_nil _).symm,
        .notSubmitted⟩
    · split
      · exact Guarantees.stop (Stop.error_expected _)
      · rename_i hacquired
        obtain ⟨himage, hprogress₂⟩ :=
          hV.acquired _ _ _ _ _ _ hcall (Classical.not_not.mp hacquired)
        rw [← hbuilt.images] at himage
        have hbuilt₂ : Built V renderer (V.queue d₂) :=
          hready₁.built.of_semaphores hprogress₂.semaphores
        have hturn := (hready₁.slots.turn hunused).signal.progress hprogress₂
        apply (submitFrame_spec hV hbuilt₂ hslot hturn himage).bind
        intro ⟨renderFinishedSemaphore, d₃⟩ ⟨hready₃, hrecord₃⟩
        apply (serviceCapture_spec hV hready₃ himage).bind
        intro ⟨⟨served, capture⟩, d₄⟩ ⟨hready₄, hnone, hcapture, calls, hrecord₄, hcalls⟩
        apply (presentFrame_spec hV hready₄ framebufferSize imageIndex renderFinishedSemaphore
          capture).mono
        intro frame ⟨hframe, hsubmitted, hpending, hrecord⟩
        rw [hsubmitted]
        refine ⟨hframe, ⟨hcapture, hpending.trans hnone⟩, _, ?_,
          .submitted hsemaphoreAt hfenceAt hcalls⟩
        have hacquired₂ : (V.queue d₂).record = (V.queue device).record :=
          hprogress₂.record.trans hprogress₁.record
        rw [hrecord, hrecord₄, hrecord₃, hacquired₂, List.append_assoc, List.singleton_append]

end Guards

end PlaygroundEngine.Renderer
