import PlaygroundEngine.Renderer.CommandDraws

/-!
# The renderer's commands are in order

Whatever frames, captures, meshes and rebuilds come after each other: the images are written, read,
presented and taken back in an order that barriers and waits enforce, and each command finds what it
depends on within its own command buffer.
-/

namespace PlaygroundEngine.Renderer.Commands

open Library
set_option autoImplicit false

abbrev TargetState := ResourceState Stage Access Layout

abbrev TargetOperation := QueueOperation Target Stage Access Layout

def ColorAttachment.accesses (attachment : ColorAttachment) : List Access :=
  match attachment.loadOp with
  | .load => [.colorAttachmentRead, .colorAttachmentWrite]
  | .clear => [.colorAttachmentWrite]

/-- Rendering to an image, in which it is written by the draws or by the resolve. -/
def colorUsage (accesses : List Access) (layout : Layout) : Usage Stage Access Layout :=
  ⟨[.colorAttachmentOutput], accesses, [.colorAttachmentWrite], layout⟩

/-- A depth buffer that is cleared is only read where it was written. -/
def depthUsage (layout : Layout) : Usage Stage Access Layout :=
  ⟨[.earlyFragmentTests, .lateFragmentTests], [.depthStencilAttachmentWrite],
    [.depthStencilAttachmentWrite], layout⟩

def RenderingInfo.operations (info : RenderingInfo) : List TargetOperation :=
  .use info.color.image (colorUsage info.color.accesses info.color.imageLayout) ::
  ((info.color.resolve.map fun resolve =>
      .use resolve.1 (colorUsage [.colorAttachmentWrite] resolve.2)).toList ++
    (info.depth.map fun depth => .use depth.image (depthUsage depth.imageLayout)).toList)

section Semantics
variable {F : Type}

def Command.operations : Command F → List TargetOperation
  | .pipelineBarrier image barrier => [.barrier image barrier]
  | .beginRendering info => info.operations
  | .copyImageToBuffer image layout _ => [.use image ⟨[.transfer], [.transferRead], [], layout⟩]
  | _ => []

def Call.operations : Call F → List TargetOperation
  | .submitted waits commands _ =>
    (waits.map fun wait => .handBack wait.1 wait.2).toList ++ commands.flatMap Command.operations
  | .waitedIdle => [.settle]
  | .waitFailed => []
  | .presented image _ => [.handOver image .presentSrc]
  | .created image ours => [.replace image ours]

def createdTargets : Target → TargetState
  | .swapChainImage _ => .fresh false
  | .multisampleColorImage | .depthImage => .fresh true

end Semantics

def sceneOperations (imageIndex : Nat) : List TargetOperation :=
  [.barrier (.swapChainImage imageIndex) ⟨[.colorAttachmentOutput], [], [.colorAttachmentOutput],
      [.colorAttachmentWrite], .undefined, .colorAttachmentOptimal⟩,
    .barrier .multisampleColorImage ⟨[.colorAttachmentOutput], [.colorAttachmentWrite],
      [.colorAttachmentOutput], [.colorAttachmentWrite], .undefined, .colorAttachmentOptimal⟩,
    .barrier .depthImage ⟨[.earlyFragmentTests, .lateFragmentTests],
      [.depthStencilAttachmentWrite], [.earlyFragmentTests, .lateFragmentTests],
      [.depthStencilAttachmentWrite], .undefined, .depthAttachmentOptimal⟩,
    .use .multisampleColorImage (colorUsage [.colorAttachmentWrite] .colorAttachmentOptimal),
    .use (.swapChainImage imageIndex) (colorUsage [.colorAttachmentWrite] .colorAttachmentOptimal),
    .use .depthImage (depthUsage .depthAttachmentOptimal)]

def overlayOperations (imageIndex : Nat) : List TargetOperation :=
  [.barrier (.swapChainImage imageIndex) ⟨[.colorAttachmentOutput], [.colorAttachmentWrite],
      [.colorAttachmentOutput], [.colorAttachmentRead, .colorAttachmentWrite],
      .colorAttachmentOptimal, .colorAttachmentOptimal⟩,
    .use (.swapChainImage imageIndex)
      (colorUsage [.colorAttachmentRead, .colorAttachmentWrite] .colorAttachmentOptimal)]

def presentBarrier (imageIndex : Nat) : TargetOperation :=
  .barrier (.swapChainImage imageIndex) ⟨[.colorAttachmentOutput], [.colorAttachmentWrite],
    bottomOfPipe, [], .colorAttachmentOptimal, .presentSrc⟩

theorem operations_recordMesh {F : Type} (toMatrix : Transform F → Matrix4x4 F)
    (meshes : List GpuMesh) (extracted : ExtractedMesh F) :
    (recordMesh toMatrix meshes extracted).flatMap Command.operations = [] := by
  unfold recordMesh
  split_ifs
  · rfl
  · cases meshes[extracted.mesh.index.toNat - 1]? <;> rfl

theorem operations_recordCommandBuffer {F : Type} [FloatNumber F]
    (toMatrix : Transform F → Matrix4x4 F) (renderer : FrameRenderer) (frame : ExtractedFrame F)
    (imageIndex : Nat) (drawData : Bool) :
    (recordCommandBuffer toMatrix renderer frame imageIndex drawData).flatMap Command.operations =
      sceneOperations imageIndex ++
        (if renderer.debugUiOverlayEnabled = true ∧ drawData = true then
          overlayOperations imageIndex else []) ++ [presentBarrier imageIndex] := by
  have hmeshes : (frame.meshes.flatMap (recordMesh toMatrix renderer.meshes)).flatMap
      Command.operations = [] := by
    rw [List.flatMap_assoc]
    exact List.flatMap_eq_nil_iff.mpr fun extracted _ => operations_recordMesh toMatrix _ extracted
  unfold recordCommandBuffer recordScene
  simp only [List.flatMap_append, hmeshes]
  split_ifs <;> rfl

/-- Between two calls that draw: the swap chain's images are out, and the others wait for no more
than the next frame's barriers do. -/
structure Resting (states : Target → TargetState) : Prop where
  swapChainImage : ∀ index, (states (.swapChainImage index)).last = .away
  multisampleColorImage : (states .multisampleColorImage).last.Precedes [.colorAttachmentOutput] ∧
    (states .multisampleColorImage).writes ⊆ [.colorAttachmentWrite]
  depthImage : (states .depthImage).last.Precedes [.earlyFragmentTests, .lateFragmentTests] ∧
    (states .depthImage).writes ⊆ [.depthStencilAttachmentWrite]

theorem resting_created : Resting createdTargets where
  swapChainImage _ := rfl
  multisampleColorImage := ⟨trivial, List.nil_subset _⟩
  depthImage := ⟨trivial, List.nil_subset _⟩

/-- Written in a rendering that no barrier has followed. -/
def renderedColor : TargetState :=
  ⟨.colorAttachmentOptimal, .used [.colorAttachmentOutput], [.colorAttachmentWrite], []⟩

/-- While a frame's commands are executed, after a rendering. -/
structure Rendered (imageIndex : Nat) (states : Target → TargetState) : Prop where
  swapChainImage : ∀ index, index ≠ imageIndex → (states (.swapChainImage index)).last = .away
  image : states (.swapChainImage imageIndex) = renderedColor
  multisampleColorImage : states .multisampleColorImage = renderedColor
  depthImage : states .depthImage = ⟨.depthAttachmentOptimal,
    .used [.earlyFragmentTests, .lateFragmentTests], [.depthStencilAttachmentWrite], []⟩

/-- As between two frames, but for an image that is about to be presented. -/
structure Drawn (imageIndex : Nat) (states : Target → TargetState) : Prop where
  swapChainImage : ∀ index, index ≠ imageIndex → (states (.swapChainImage index)).last = .away
  image : (states (.swapChainImage imageIndex)).Released .presentSrc
  multisampleColorImage : (states .multisampleColorImage).last.Precedes [.colorAttachmentOutput] ∧
    (states .multisampleColorImage).writes ⊆ [.colorAttachmentWrite]
  depthImage : (states .depthImage).last.Precedes [.earlyFragmentTests, .lateFragmentTests] ∧
    (states .depthImage).writes ⊆ [.depthStencilAttachmentWrite]

theorem layout_default : (default : Layout) = .undefined := rfl

theorem leads_scene (imageIndex : Nat) :
    Leads Resting (.handBack (.swapChainImage imageIndex) [.colorAttachmentOutput] ::
      sceneOperations imageIndex) (Rendered imageIndex) := by
  intro states h
  obtain ⟨hcolor, hcolorWrites⟩ := h.multisampleColorImage
  obtain ⟨hdepth, hdepthWrites⟩ := h.depthImage
  refine ⟨⟨h.swapChainImage imageIndex, ?_⟩, ?_, ?_, ?_, ?_⟩
  · simp [sceneOperations, Allowed, QueueOperation.Permitted, QueueOperation.execute,
      Barrier.Permitted, Usage.Permitted, colorUsage, depthUsage, layout_default, hcolor,
      hcolorWrites, hdepth, hdepthWrites]
  · intro index hne
    have hother := h.swapChainImage index
    simp [sceneOperations, executeEach, QueueOperation.execute, hne, hother]
  · simp [sceneOperations, executeEach, QueueOperation.execute, colorUsage, renderedColor]
  · simp [sceneOperations, executeEach, QueueOperation.execute, colorUsage, renderedColor]
  · simp [sceneOperations, executeEach, QueueOperation.execute, depthUsage]

theorem leads_overlay (imageIndex : Nat) :
    Leads (Rendered imageIndex) (overlayOperations imageIndex) (Rendered imageIndex) := by
  intro states h
  refine ⟨?_, ?_, ?_, ?_, ?_⟩
  · simp [overlayOperations, Allowed, QueueOperation.Permitted, QueueOperation.execute,
      Barrier.Permitted, Usage.Permitted, colorUsage, h.image, renderedColor]
  · intro index hne
    have hother := h.swapChainImage index hne
    simp [overlayOperations, executeEach, QueueOperation.execute, hne, hother]
  · simp [overlayOperations, executeEach, QueueOperation.execute, colorUsage, renderedColor]
  · simp [overlayOperations, executeEach, QueueOperation.execute, h.multisampleColorImage]
  · simp [overlayOperations, executeEach, QueueOperation.execute, h.depthImage]

theorem leads_presentBarrier (imageIndex : Nat) :
    Leads (Rendered imageIndex) [presentBarrier imageIndex] (Drawn imageIndex) := by
  intro states h
  refine ⟨?_, ?_, ?_, ?_, ?_⟩
  · simp [presentBarrier, Allowed, QueueOperation.Permitted, Barrier.Permitted, h.image,
      renderedColor]
  · intro index hne
    have hother := h.swapChainImage index hne
    simp [presentBarrier, executeEach, QueueOperation.execute, hne, hother]
  · simp [presentBarrier, executeEach, QueueOperation.execute, ResourceState.Released]
  · simp [presentBarrier, executeEach, QueueOperation.execute, h.multisampleColorImage,
      renderedColor]
  · simp [presentBarrier, executeEach, QueueOperation.execute, h.depthImage]

theorem settled_precedes {last : LastWork Stage} {stages : List Stage} (h : last.Precedes stages) :
    last.settled.Precedes stages := by
  cases last <;> trivial

theorem leads_settle_drawn (imageIndex : Nat) :
    Leads (Drawn imageIndex) [.settle] (Drawn imageIndex) := by
  intro states h
  refine ⟨⟨trivial, trivial⟩, ?_, ?_, ?_, ?_⟩
  · intro index hne
    have hother := h.swapChainImage index hne
    simp [executeEach, QueueOperation.execute, ResourceState.settled, hother, LastWork.settled]
  · obtain ⟨hlast, _, hlayout⟩ := h.image
    refine ⟨Or.inl ?_, rfl, hlayout⟩
    rcases hlast with hlast | ⟨stages, hlast⟩ <;>
      simp [executeEach, QueueOperation.execute, ResourceState.settled, hlast, LastWork.settled]
  · exact ⟨settled_precedes h.multisampleColorImage.1, List.nil_subset _⟩
  · exact ⟨settled_precedes h.depthImage.1, List.nil_subset _⟩

theorem leads_settle_resting : Leads Resting [.settle] Resting := by
  intro states h
  refine ⟨⟨trivial, trivial⟩, ?_, ?_, ?_⟩
  · intro index
    have hother := h.swapChainImage index
    simp [executeEach, QueueOperation.execute, ResourceState.settled, hother, LastWork.settled]
  · exact ⟨settled_precedes h.multisampleColorImage.1, List.nil_subset _⟩
  · exact ⟨settled_precedes h.depthImage.1, List.nil_subset _⟩

def callOperations {F : Type} (calls : List (Call F)) : List TargetOperation :=
  calls.flatMap Call.operations

theorem callOperations_append {F : Type} (calls later : List (Call F)) :
    callOperations (calls ++ later) = callOperations calls ++ callOperations later :=
  List.flatMap_append

/-- The host has waited for the frame whose image is about to be presented. -/
structure Finished (imageIndex : Nat) (states : Target → TargetState) : Prop
    extends Drawn imageIndex states where
  nothing : (states (.swapChainImage imageIndex)).last = .nothing

theorem leads_settle_finished (imageIndex : Nat) :
    Leads (Drawn imageIndex) [.settle] (Finished imageIndex) := by
  intro states h
  obtain ⟨hallowed, hdrawn⟩ := leads_settle_drawn imageIndex states h
  refine ⟨hallowed, hdrawn, ?_⟩
  rcases h.image.1 with hlast | ⟨stages, hlast⟩ <;>
    simp [executeEach, QueueOperation.execute, ResourceState.settled, hlast, LastWork.settled]

theorem leads_readImageToHost {F : Type} (imageIndex : Nat) (extent : Extent2D) :
    Leads (Finished imageIndex)
      ((readImageToHost (.swapChainImage imageIndex) .presentSrc extent : List (Command F)).flatMap
        Command.operations) (Drawn imageIndex) := by
  intro states h
  obtain ⟨_, hwrites, hlayout⟩ := h.image
  refine ⟨?_, ?_, ?_, ?_, ?_⟩
  · simp [readImageToHost, transitionImageLayout, Command.operations, Allowed,
      QueueOperation.Permitted, QueueOperation.execute, Barrier.Permitted, Usage.Permitted,
      h.nothing, hwrites, hlayout]
  · intro index hne
    have hother := h.swapChainImage index hne
    simp [readImageToHost, transitionImageLayout, Command.operations, executeEach,
      QueueOperation.execute, hne, hother]
  · simp [readImageToHost, transitionImageLayout, Command.operations, executeEach,
      QueueOperation.execute, ResourceState.Released]
  · simpa [readImageToHost, transitionImageLayout, Command.operations, executeEach,
      QueueOperation.execute] using h.multisampleColorImage
  · simpa [readImageToHost, transitionImageLayout, Command.operations, executeEach,
      QueueOperation.execute] using h.depthImage

/-- Nothing is under way on any image. -/
structure Idle (states : Target → TargetState) : Prop extends Resting states where
  idle : ∀ image, (states image).last.Idle

theorem settled_idle (last : LastWork Stage) : last.settled.Idle := by
  cases last <;> trivial

theorem leads_settle_idle : Leads Resting [.settle] Idle := by
  intro states h
  obtain ⟨hallowed, hresting⟩ := leads_settle_resting states h
  exact ⟨hallowed, hresting, fun image => settled_idle (states image).last⟩

theorem leads_created {image : Target} {ours : Bool}
    (h : (createdTargets image).last = (ResourceState.fresh ours : TargetState).last) :
    Leads Idle [.replace image ours] Idle := by
  intro states hidle
  have hstate : ∀ other, executeEach states [.replace image ours] other =
      if other = image then .fresh ours else states other := by
    intro other
    exact Function.update_apply states image _ other
  refine ⟨⟨hidle.idle image, trivial⟩, ⟨?_, ?_, ?_⟩, ?_⟩
  · intro index
    rw [hstate]
    split_ifs with hsame
    · rw [← h, ← hsame]
      rfl
    · exact hidle.swapChainImage index
  · rw [hstate]
    split_ifs with hsame
    · rw [← h, ← hsame]
      exact ⟨trivial, List.nil_subset _⟩
    · exact hidle.multisampleColorImage
  · rw [hstate]
    split_ifs with hsame
    · rw [← h, ← hsame]
      exact ⟨trivial, List.nil_subset _⟩
    · exact hidle.depthImage
  · intro other
    rw [hstate]
    split_ifs
    · cases ours <;> trivial
    · exact hidle.idle other

section Frames
variable {F : Type}

theorem leads_singleTimeCommands {pre post : (Target → TargetState) → Prop}
    {commands : List (Command F)} (h : Leads pre (commands.flatMap Command.operations) post)
    (hpre : ∀ states, pre states → post states) (hsettle : Leads post [.settle] post)
    (answer : SingleTimeAnswer) :
    Leads pre (callOperations (singleTimeCommands commands answer)) post := by
  cases answer with
  | notSubmitted => exact (Leads.nil pre).weaken hpre
  | submitted waited =>
    cases waited with
    | false => simpa [singleTimeCommands, callOperations, Call.operations] using h
    | true => simpa [singleTimeCommands, callOperations, Call.operations] using h.append hsettle

theorem leads_acquireMesh (answers : MeshAnswers) (renderer : FrameRenderer) :
    Leads Resting (callOperations (acquireMesh (F := F) answers renderer).1) Resting := by
  have hcopy : ∀ answer, Leads Resting
      (callOperations (singleTimeCommands [(.copyBuffer : Command F)] answer)) Resting :=
    leads_singleTimeCommands (Leads.nil Resting) (fun _ => id) leads_settle_resting
  unfold acquireMesh
  split_ifs
  · exact hcopy _
  all_goals
    rw [callOperations_append]
    exact (hcopy _).append (hcopy _)

theorem leads_createdImages (images : Nat) :
    Leads Idle (callOperations ((List.range images).map fun index =>
      (.created (.swapChainImage index) false : Call F))) Idle := by
  induction images with
  | zero => exact Leads.nil _
  | succ images ih =>
    rw [List.range_succ, List.map_append, callOperations_append]
    exact ih.append (leads_created rfl)

theorem leads_recreateSwapChain (answers : RecreateAnswers) (renderer : FrameRenderer) :
    Leads Resting (callOperations (recreateSwapChain (F := F) answers renderer).1) Resting := by
  have himages := leads_settle_idle.append (@leads_createdImages F answers.images)
  have hresting : ∀ states, Idle states → Resting states := fun _ h => h.toResting
  have hcreated : ∀ made : List TargetOperation, Leads Idle made Idle → Leads Resting
      (callOperations ((.waitedIdle : Call F) :: (List.range answers.images).map fun index =>
        .created (.swapChainImage index) false) ++ made) Resting :=
    fun made hmade => (himages.append hmade).weaken hresting
  have hcolor : Leads Idle [.replace .multisampleColorImage true] Idle := leads_created rfl
  have hdepth : Leads Idle [.replace .depthImage true] Idle := leads_created rfl
  unfold recreateSwapChain
  dsimp only
  split_ifs
  · exact Leads.nil _
  · exact leads_settle_resting
  · exact himages.weaken hresting
  · rw [callOperations_append]
    exact hcreated _ hcolor
  · rw [callOperations_append]
    exact hcreated _ (hcolor.append hdepth)

theorem leads_captureCalls (answers : FrameAnswers) (imageIndex : Nat) (renderer : FrameRenderer) :
    Leads (Drawn imageIndex) (callOperations (captureCalls (F := F) answers imageIndex renderer))
      (Drawn imageIndex) := by
  unfold captureCalls
  split_ifs
  · exact Leads.nil _
  · exact leads_settle_drawn imageIndex
  · exact (leads_settle_finished imageIndex).append (leads_singleTimeCommands
      (leads_readImageToHost imageIndex renderer.swapChainExtent) (fun _ h => h.toDrawn)
      (leads_settle_drawn imageIndex) _)

theorem leads_presented (imageIndex : Nat) :
    Leads (Drawn imageIndex) [.handOver (.swapChainImage imageIndex) .presentSrc] Resting := by
  intro states h
  refine ⟨⟨h.image, trivial⟩, ?_, ?_, ?_⟩
  · intro index
    by_cases hsame : index = imageIndex
    · simp [executeEach, QueueOperation.execute, hsame]
    · have hother := h.swapChainImage index hsame
      simp [executeEach, QueueOperation.execute, hsame, hother]
  · simpa [executeEach, QueueOperation.execute] using h.multisampleColorImage
  · simpa [executeEach, QueueOperation.execute] using h.depthImage

theorem leads_presentFrame (answers : FrameAnswers) (imageIndex : Nat) (renderer : FrameRenderer) :
    Leads (Drawn imageIndex)
      (callOperations (presentFrame (F := F) answers imageIndex renderer).1) Resting := by
  unfold presentFrame
  dsimp only
  split_ifs
  · exact (leads_presented imageIndex).append (leads_recreateSwapChain answers.recreated _)
  · exact leads_presented imageIndex

theorem leads_recordCommandBuffer [FloatNumber F] (toMatrix : Transform F → Matrix4x4 F)
    (renderer : FrameRenderer) (frame : ExtractedFrame F) (imageIndex : Nat) (drawData : Bool) :
    Leads Resting (callOperations
      [.submitted (some (.swapChainImage imageIndex, [.colorAttachmentOutput]))
        (recordCommandBuffer toMatrix renderer frame imageIndex drawData) (some imageIndex)])
      (Drawn imageIndex) := by
  have hoverlay : Leads (Rendered imageIndex)
      (if renderer.debugUiOverlayEnabled = true ∧ drawData = true then
        overlayOperations imageIndex else []) (Rendered imageIndex) := by
    split_ifs
    · exact leads_overlay imageIndex
    · exact Leads.nil _
  have hall := ((leads_scene imageIndex).append hoverlay).append (leads_presentBarrier imageIndex)
  simpa [callOperations, Call.operations, operations_recordCommandBuffer] using hall

theorem leads_drawFrame [FloatNumber F] (toMatrix : Transform F → Matrix4x4 F)
    (answers : FrameAnswers) (frame : ExtractedFrame F) (drawData : Bool)
    (renderer : FrameRenderer) :
    Leads Resting (callOperations (drawFrame toMatrix answers frame drawData renderer).1)
      Resting := by
  have hsubmitted := leads_recordCommandBuffer toMatrix renderer frame answers.acquired.2 drawData
  have hcaptured := leads_captureCalls (F := F) answers answers.acquired.2 renderer
  have hpresented := leads_presentFrame (F := F) answers answers.acquired.2
    { renderer with pendingCapture := false }
  unfold drawFrame
  dsimp only
  split_ifs
  · exact Leads.nil _
  · exact Leads.nil _
  · exact leads_recreateSwapChain _ _
  · exact Leads.nil _
  · rw [callOperations_append, ← List.singleton_append, callOperations_append]
    exact (hsubmitted.append hcaptured).append hpresented
  · exact Leads.nil _

/-! ### Every run -/

theorem leads_run [FloatNumber F] {toMatrix : Transform F → Matrix4x4 F} {calls : List (Call F)}
    {renderer : FrameRenderer} {goesOn : Bool} (h : Run toMatrix calls renderer goesOn) :
    Leads Resting (callOperations calls) Resting := by
  induction h with
  | created => exact Leads.nil _
  | resized _ ih => exact ih
  | requested _ ih => exact ih
  | acquiredMesh answers _ ih =>
    rw [callOperations_append]
    exact ih.append (leads_acquireMesh answers _)
  | drawn answers frame drawData _ ih =>
    rw [callOperations_append]
    exact ih.append (leads_drawFrame toMatrix answers frame drawData _)

theorem untouched_created : Untouched createdTargets := by
  intro image
  cases image with
  | swapChainImage _ => exact ⟨false, rfl⟩
  | multisampleColorImage | depthImage => exact ⟨true, rfl⟩

def Recorded (calls : List (Call F)) : Prop :=
  ∀ waits commands signals, .submitted waits commands signals ∈ calls →
    (drawsOf commands).isSome = true

theorem Recorded.append {calls later : List (Call F)} (h : Recorded calls)
    (hlater : Recorded later) : Recorded (calls ++ later) := by
  intro waits commands signals hmem
  rcases List.mem_append.mp hmem with hfirst | hsecond
  · exact h waits commands signals hfirst
  · exact hlater waits commands signals hsecond

theorem recorded_singleTimeCommands {commands : List (Command F)}
    (h : (drawsOf commands).isSome = true) (answer : SingleTimeAnswer) :
    Recorded (singleTimeCommands commands answer) := by
  intro waits others signals hmem
  cases answer with
  | notSubmitted => cases hmem
  | submitted waited =>
    rcases List.mem_cons.mp hmem with hsame | hrest
    · cases hsame
      exact h
    · cases waited <;> cases List.mem_singleton.mp hrest

theorem recorded_acquireMesh (answers : MeshAnswers) (renderer : FrameRenderer) :
    Recorded (acquireMesh (F := F) answers renderer).1 := by
  have hcopy : ∀ answer, Recorded (singleTimeCommands [(.copyBuffer : Command F)] answer) :=
    recorded_singleTimeCommands rfl
  unfold acquireMesh
  split_ifs
  · exact hcopy _
  all_goals exact (hcopy _).append (hcopy _)

theorem recorded_recreateSwapChain (answers : RecreateAnswers) (renderer : FrameRenderer) :
    Recorded (recreateSwapChain (F := F) answers renderer).1 := by
  intro waits commands signals hmem
  unfold recreateSwapChain at hmem
  dsimp only at hmem
  split_ifs at hmem <;> simp at hmem

theorem recorded_waitedIdle : Recorded [(.waitedIdle : Call F)] := by
  intro waits commands signals hmem
  simp at hmem

theorem recorded_captureCalls (answers : FrameAnswers) (imageIndex : Nat)
    (renderer : FrameRenderer) :
    Recorded (captureCalls (F := F) answers imageIndex renderer) := by
  unfold captureCalls
  split_ifs
  · exact fun _ _ _ hmem => absurd hmem List.not_mem_nil
  · exact recorded_waitedIdle
  · exact recorded_waitedIdle.append (recorded_singleTimeCommands rfl _)

theorem recorded_presentFrame (answers : FrameAnswers) (imageIndex : Nat)
    (renderer : FrameRenderer) :
    Recorded (presentFrame (F := F) answers imageIndex renderer).1 := by
  have hpresented : Recorded [(.presented (.swapChainImage imageIndex) imageIndex : Call F)] := by
    intro waits commands signals hmem
    simp at hmem
  unfold presentFrame
  dsimp only
  split_ifs
  · exact hpresented.append (recorded_recreateSwapChain answers.recreated _)
  · exact hpresented

theorem recorded_drawFrame [FloatNumber F] (toMatrix : Transform F → Matrix4x4 F)
    (answers : FrameAnswers) (frame : ExtractedFrame F) (drawData : Bool)
    (renderer : FrameRenderer) :
    Recorded (drawFrame toMatrix answers frame drawData renderer).1 := by
  have hsubmitted : Recorded [.submitted
      (some (.swapChainImage answers.acquired.2, [.colorAttachmentOutput]))
      (recordCommandBuffer toMatrix renderer frame answers.acquired.2 drawData)
      (some answers.acquired.2)] := by
    intro waits commands signals hmem
    cases List.mem_singleton.mp hmem
    rw [drawsOf_recordCommandBuffer]
    rfl
  have hcaptured := recorded_captureCalls (F := F) answers answers.acquired.2 renderer
  have hpresented := recorded_presentFrame (F := F) answers answers.acquired.2
    { renderer with pendingCapture := false }
  have hnone : Recorded ([] : List (Call F)) := fun _ _ _ hmem => absurd hmem List.not_mem_nil
  unfold drawFrame
  dsimp only
  split_ifs
  · exact hnone
  · exact hnone
  · exact recorded_recreateSwapChain _ _
  · exact hnone
  · exact (hsubmitted.append hcaptured).append hpresented
  · exact hnone

/-- A wait came after every submission; only the last one can have failed. -/
def Awaited (calls : List (Call F)) : Prop :=
  ∀ before waits commands signals after,
    calls = before ++ .submitted waits commands signals :: after →
    .waitedIdle ∈ after ∨ after = [.waitFailed]

def Presents (calls : List (Call F)) : Prop :=
  ∃ image waits, .presented image waits ∈ calls

/-- A present comes once its own frame's submission is done, which signals what the present waits
for, and so is everything that was submitted in between. -/
def HandedOver (calls : List (Call F)) : Prop :=
  ∀ before image semaphore after, calls = before ++ .presented image semaphore :: after →
    ∃ earlier waits commands between,
      before = earlier ++ .submitted waits commands (some semaphore) :: between ∧
      ¬ Presents between ∧ Awaited between

theorem handedOver_of_not_presents {calls : List (Call F)} (h : ¬ Presents calls) :
    HandedOver calls := by
  rintro before image semaphore after rfl
  exact absurd ⟨image, semaphore, List.mem_append_right _ List.mem_cons_self⟩ h

theorem HandedOver.append {calls later : List (Call F)} (h : HandedOver calls)
    (hlater : HandedOver later) : HandedOver (calls ++ later) := by
  intro before image semaphore after heq
  rcases List.append_eq_append_iff.mp heq with ⟨rest, rfl, hrest⟩ | ⟨rest, rfl, hrest⟩
  · obtain ⟨earlier, waits, commands, between, rfl, hbetween⟩ :=
      hlater rest image semaphore after hrest
    exact ⟨calls ++ earlier, waits, commands, between, (List.append_assoc ..).symm, hbetween⟩
  · rcases List.cons_eq_append_iff.mp hrest with ⟨rfl, hfirst⟩ | ⟨rest, rfl, rfl⟩
    · obtain ⟨earlier, waits, commands, between, hbefore, hbetween⟩ :=
        hlater [] image semaphore after hfirst
      cases earlier <;> cases hbefore
    · exact h before image semaphore rest rfl

theorem handedOver_presented {capture : List (Call F)} (hpresents : ¬ Presents capture)
    (hawaited : Awaited capture) (waits : Option (Target × List Stage))
    (commands : List (Command F)) (imageIndex : Nat) (image : Target) :
    HandedOver (.submitted waits commands (some imageIndex) ::
      (capture ++ [.presented image imageIndex])) := by
  intro before other semaphore after heq
  cases before with
  | nil => cases heq
  | cons first before =>
    obtain ⟨rfl, htail⟩ := List.cons.inj heq
    rcases List.append_eq_append_iff.mp htail with ⟨rest, rfl, hrest⟩ | ⟨rest, rfl, hrest⟩
    · obtain ⟨rfl, hlast⟩ | ⟨_, rfl, hlast⟩ := List.cons_eq_append_iff.mp hrest
      · cases hlast
        refine ⟨[], waits, commands, capture, ?_, hpresents, hawaited⟩
        rw [List.append_nil, List.nil_append]
      · cases (List.append_eq_nil_iff.mp hlast.symm).2
    · obtain ⟨rfl, hlast⟩ | ⟨rest, rfl, _⟩ := List.cons_eq_append_iff.mp hrest
      · cases hlast
        rw [List.append_nil] at hpresents hawaited
        exact ⟨[], waits, commands, before, rfl, hpresents, hawaited⟩
      · exact absurd ⟨other, semaphore, List.mem_append_right _ List.mem_cons_self⟩ hpresents

theorem awaited_nil : Awaited ([] : List (Call F)) := by
  intro before waits commands signals after heq
  cases (List.append_eq_nil_iff.mp heq.symm).2

theorem awaited_captureCalls (answers : FrameAnswers) (imageIndex : Nat)
    (renderer : FrameRenderer) :
    ¬ Presents (captureCalls (F := F) answers imageIndex renderer) ∧
      Awaited (captureCalls (F := F) answers imageIndex renderer) := by
  unfold captureCalls
  split_ifs
  · exact ⟨fun ⟨_, _, hmem⟩ => absurd hmem List.not_mem_nil, awaited_nil⟩
  · refine ⟨fun ⟨_, _, hmem⟩ => by simp at hmem, ?_⟩
    intro before waits commands signals after heq
    cases before <;> simp at heq
  · cases answers.readback with
    | notSubmitted =>
      refine ⟨fun ⟨_, _, hmem⟩ => by simp [singleTimeCommands] at hmem, ?_⟩
      intro before waits commands signals after heq
      cases before <;> simp [singleTimeCommands] at heq
    | submitted waited =>
      refine ⟨fun ⟨_, _, hmem⟩ => ?_, ?_⟩
      · cases waited <;> simp [singleTimeCommands] at hmem
      · intro before waits commands signals after heq
        match before with
        | [] => simp at heq
        | [_] =>
          cases waited <;> simp [singleTimeCommands] at heq
          · exact Or.inr heq.2.2.symm
          · exact Or.inl (heq.2.2 ▸ List.mem_singleton_self _)
        | _ :: _ :: before =>
          cases before <;> cases waited <;> simp [singleTimeCommands] at heq

theorem not_presents_recreateSwapChain (answers : RecreateAnswers) (renderer : FrameRenderer) :
    ¬ Presents (recreateSwapChain (F := F) answers renderer).1 := by
  rintro ⟨image, waits, hmem⟩
  unfold recreateSwapChain at hmem
  dsimp only at hmem
  split_ifs at hmem <;> simp at hmem

theorem not_presents_acquireMesh (answers : MeshAnswers) (renderer : FrameRenderer) :
    ¬ Presents (acquireMesh (F := F) answers renderer).1 := by
  have hcopy : ∀ answer, ¬ Presents (singleTimeCommands [(.copyBuffer : Command F)] answer) := by
    rintro answer ⟨image, waits, hmem⟩
    cases answer with
    | notSubmitted => cases hmem
    | submitted waited => cases waited <;> simp [singleTimeCommands] at hmem
  rintro ⟨image, waits, hmem⟩
  unfold acquireMesh at hmem
  split_ifs at hmem
  · exact hcopy _ ⟨image, waits, hmem⟩
  all_goals
    rcases List.mem_append.mp hmem with hmem | hmem
    · exact hcopy _ ⟨image, waits, hmem⟩
    · exact hcopy _ ⟨image, waits, hmem⟩

theorem handedOver_drawFrame [FloatNumber F] (toMatrix : Transform F → Matrix4x4 F)
    (answers : FrameAnswers) (frame : ExtractedFrame F) (drawData : Bool)
    (renderer : FrameRenderer) :
    HandedOver (drawFrame toMatrix answers frame drawData renderer).1 := by
  obtain ⟨hpresents, hawaited⟩ := awaited_captureCalls (F := F) answers answers.acquired.2 renderer
  have hpresented := handedOver_presented hpresents hawaited
    (some (.swapChainImage answers.acquired.2, [.colorAttachmentOutput]))
    (recordCommandBuffer toMatrix renderer frame answers.acquired.2 drawData)
    answers.acquired.2 (.swapChainImage answers.acquired.2)
  have hrecreated (renderer : FrameRenderer) :
      HandedOver (recreateSwapChain (F := F) answers.recreated renderer).1 :=
    handedOver_of_not_presents (not_presents_recreateSwapChain _ _)
  have hnone : HandedOver ([] : List (Call F)) :=
    handedOver_of_not_presents fun ⟨_, _, hmem⟩ => absurd hmem List.not_mem_nil
  unfold drawFrame presentFrame
  dsimp only
  split_ifs
  · exact hnone
  · exact hnone
  · exact hrecreated _
  · exact hnone
  · simpa using hpresented.append (hrecreated _)
  · exact hpresented
  · exact hnone

/-- What the queue is given is in order, over any run, and each of its command buffers is whole. -/
structure QueueSafe (calls : List (Call F)) : Prop where
  ordered : Ordered (callOperations calls)
  handedOver : HandedOver calls
  recorded : Recorded calls

theorem run_queueSafe [FloatNumber F] {toMatrix : Transform F → Matrix4x4 F}
    {calls : List (Call F)} {renderer : FrameRenderer} {goesOn : Bool}
    (h : Run toMatrix calls renderer goesOn) : QueueSafe calls where
  ordered :=
    ordered_of_allowed untouched_created (leads_run h createdTargets resting_created).1
  handedOver := by
    induction h with
    | created => exact handedOver_of_not_presents fun ⟨_, _, hmem⟩ => absurd hmem List.not_mem_nil
    | resized _ ih => exact ih
    | requested _ ih => exact ih
    | acquiredMesh answers _ ih =>
      exact ih.append (handedOver_of_not_presents (not_presents_acquireMesh answers _))
    | drawn answers frame drawData _ ih =>
      exact ih.append (handedOver_drawFrame toMatrix answers frame drawData _)
  recorded := by
    induction h with
    | created => exact fun _ _ _ hmem => absurd hmem List.not_mem_nil
    | resized _ ih => exact ih
    | requested _ ih => exact ih
    | acquiredMesh answers _ ih => exact ih.append (recorded_acquireMesh answers _)
    | drawn answers frame drawData _ ih =>
      exact ih.append (recorded_drawFrame toMatrix answers frame drawData _)

end Frames

def capturedAnswers : FrameAnswers where
  framebufferSize := ⟨800, 600⟩
  waited := true
  acquired := (.success, 1)
  submitted := true
  waitedIdle := true
  readback := .submitted true
  presented := .suboptimal
  recreated := ⟨true, true, 3, ⟨800, 600⟩, true, true, true, true⟩

def capturedRenderer : FrameRenderer where
  swapChainExtent := ⟨800, 600⟩
  swapChainSupportsTransferSource := true
  swapChainSurfaceFormat := .b8g8r8a8
  debugUiOverlayEnabled := true
  pendingCapture := true

theorem run_queueSafe_captured : QueueSafe ([] ++
    (drawFrame Transform.toMatrix capturedAnswers ({} : ExtractedFrame Rat) true
      capturedRenderer).1) :=
  run_queueSafe (.drawn capturedAnswers {} true
    (.requested (.created ⟨800, 600⟩ true .b8g8r8a8 true)))

end PlaygroundEngine.Renderer.Commands
