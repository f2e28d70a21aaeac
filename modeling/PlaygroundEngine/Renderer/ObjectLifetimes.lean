import PlaygroundEngine.Renderer.Objects

/-!
# The renderer's life

From `Create` to the destructor, with any frames, meshes and rebuilds in between and any failure of
the last two: nothing is used or destroyed too late, nothing is destroyed under what shows it, and
nothing is left over.
-/

namespace PlaygroundEngine.Renderer

open Library
set_option autoImplicit false

/-- The objects that exist between two calls. -/
def HeldObjects.alive (held : HeldObjects) : VulkanObject → Prop
  | .swapChain rebuild => held.swapChain = some rebuild
  | .swapChainImageView rebuild index =>
    held.swapChain = some rebuild ∧ index < held.swapChainImageViews
  | .multisampleColorImage rebuild | .multisampleColorImageView rebuild =>
    rebuild = held.multisampleColor
  | .depthImage rebuild | .depthImageView rebuild => rebuild = held.depth
  | .uniformBuffer frame | .descriptorSet frame | .commandBuffer frame
  | .presentCompleteSemaphore frame | .inFlightFence frame => frame < maxFramesInFlight
  | .renderFinishedSemaphore rebuild index =>
    rebuild = held.renderFinished ∧ index < held.renderFinishedSemaphores
  | .vertexBuffer mesh | .indexBuffer mesh => mesh < held.meshes
  | .shaderModule | .stagingBuffer | .readbackBuffer | .singleTimeCommands => False
  | .overlayBackend => held.debugUiOverlayEnabled = true
  | _ => True

theorem HeldObjects.closed (held : HeldObjects) : Lives.Closed Needs held.alive := by
  intro object other halive hneeds
  cases object <;> simp [Needs, VulkanObject.needs] at hneeds <;>
    first
    | (subst hneeds; trivial)
    | (rcases hneeds with rfl | rfl <;> first | trivial | exact halive | exact halive.1)

/-- What the members hold was made by a rebuild that was begun. -/
structure HeldObjects.Past (held : HeldObjects) : Prop where
  swapChain : ∀ rebuild, held.swapChain = some rebuild → rebuild ≤ held.rebuilds
  multisampleColor : held.multisampleColor ≤ held.rebuilds
  depth : held.depth ≤ held.rebuilds
  renderFinished : held.renderFinished ≤ held.rebuilds

/-- Objects that nothing else needs. -/
def VulkanObject.unneeded : VulkanObject → Bool
  | .vulkanInstance | .surface | .logicalDevice | .swapChain _ | .multisampleColorImage _
  | .depthImage _ | .descriptorSetLayout | .pipelineLayout | .commandPool | .textureImage
  | .descriptorPool => false
  | _ => true

theorem not_needs_unneeded {object : VulkanObject} (h : object.unneeded = true)
    (other : VulkanObject) : ¬ Needs other object := by
  cases other <;>
    simp only [Needs, VulkanObject.needs, List.mem_cons, List.not_mem_nil, or_false] <;>
    first
    | exact not_false
    | (rintro rfl; exact absurd h Bool.false_ne_true)
    | (rintro (rfl | rfl) <;> exact absurd h Bool.false_ne_true)

section Buffers

variable {alive next : VulkanObject → Prop} {buffer : VulkanObject}
  (hclosed : Lives.Closed Needs alive) (hpool : alive .commandPool)
  (hbuffer : buffer.needs = [.logicalDevice]) (hnew : ¬ alive buffer)
  (hstaging : ¬ alive .stagingBuffer) (hcommands : ¬ alive .singleTimeCommands)
  (hother : buffer ≠ .stagingBuffer ∧ buffer ≠ .singleTimeCommands)
include hclosed hpool hbuffer hnew hstaging hcommands hother

theorem lives_copiedBuffer :
    Lives Needs alive ([.stagingBuffer, buffer, .singleTimeCommands].map .create)
      fun object => object = .singleTimeCommands ∨ object = buffer ∨ object = .stagingBuffer ∨
        alive object := by
  have hdevice : alive .logicalDevice :=
    hclosed .commandPool .logicalDevice hpool (List.mem_singleton_self _)
  refine .create hstaging ?_ (fun _ => Iff.rfl) (.create ?_ ?_ (fun _ => Iff.rfl)
    (.create ?_ ?_ (fun _ => Iff.rfl) (.nil _)))
  · intro other hneeds
    rw [List.mem_singleton.mp hneeds]
    exact hdevice
  · rintro (hsame | halive)
    · exact hother.1 hsame
    · exact hnew halive
  · intro other hneeds
    rw [Needs, hbuffer] at hneeds
    rw [List.mem_singleton.mp hneeds]
    exact Or.inr hdevice
  · rintro (hsame | hsame | halive)
    · exact hother.2 hsame.symm
    · cases hsame
    · exact hcommands halive
  · intro other hneeds
    rcases List.mem_pair.mp hneeds with rfl | rfl
    · exact Or.inr (Or.inr hdevice)
    · exact Or.inr (Or.inr hpool)

theorem lives_createDeviceLocalBuffer
    (hnext : ∀ object, next object ↔ object = buffer ∨ alive object) (answer : Option Nat) :
    Lives Needs alive (createDeviceLocalBuffer buffer answer)
      (if answer.isSome then alive else next) := by
  have hcopied := lives_copiedBuffer hclosed hpool hbuffer hnew hstaging hcommands hother
  cases answer with
  | some made => exact hcopied.passing_take hclosed made
  | none =>
    have hused := hcopied.append (.uses fun object hmem => (hcopied.creates_iff object).mpr
      (Or.inl hmem))
    refine hused.append (.destroy (Or.inl rfl) (fun other _ => not_needs_unneeded rfl other)
      (fun _ => Iff.rfl) (.destroy ?_ (fun other _ => not_needs_unneeded rfl other) ?_ (.nil next)))
    · exact ⟨Or.inr (Or.inr (Or.inl rfl)), VulkanObject.noConfusion⟩
    · intro object
      rw [hnext]
      constructor
      · rintro (rfl | halive)
        · exact ⟨⟨Or.inr (Or.inl rfl), hother.2⟩, hother.1⟩
        · exact ⟨⟨Or.inr (Or.inr (Or.inr halive)), fun heq => hcommands (heq ▸ halive)⟩,
            fun heq => hstaging (heq ▸ halive)⟩
      · rintro ⟨⟨rfl | hbuffer | rfl | halive, hne⟩, hne'⟩
        · exact absurd rfl hne
        · exact Or.inl hbuffer
        · exact absurd rfl hne'
        · exact Or.inr halive

end Buffers

theorem lives_acquireMesh (answers : AcquireMeshAnswers) (held : HeldObjects) :
    Lives Needs held.alive (acquireMesh answers held).1 (acquireMesh answers held).2.alive := by
  have hnew : ¬ held.alive (.vertexBuffer held.meshes) := Nat.lt_irrefl held.meshes
  have hvertices := lives_createDeviceLocalBuffer held.closed trivial rfl hnew id id (by simp)
    (fun _ => Iff.rfl) answers.vertexBuffer
  unfold acquireMesh
  by_cases hloaded : answers.loaded = false
  · rw [if_pos hloaded]
    exact .nil _
  · rw [if_neg hloaded]
    dsimp only
    by_cases hfails : answers.vertexBuffer.isSome = true
    · rw [if_pos hfails] at hvertices ⊢
      exact hvertices
    · rw [if_neg hfails] at hvertices ⊢
      have hneeds : (VulkanObject.indexBuffer held.meshes).needs = [.logicalDevice] := rfl
      have hindices := lives_createDeviceLocalBuffer (hvertices.closed held.closed)
        (Or.inr trivial) hneeds (by simp [HeldObjects.alive]) (by simp [HeldObjects.alive])
        (by simp [HeldObjects.alive]) (by simp) (fun _ => Iff.rfl) answers.indexBuffer
      by_cases hindex : answers.indexBuffer.isSome = true
      · rw [if_pos hindex] at hindices ⊢
        refine (hvertices.append hindices).append ?_
        refine Lives.destroy_one (Or.inl rfl) (fun other _ => not_needs_unneeded rfl other) ?_
        intro object
        constructor
        · intro halive
          refine ⟨Or.inr halive, ?_⟩
          rintro rfl
          exact Nat.lt_irrefl held.meshes halive
        · rintro ⟨rfl | halive, hne⟩
          · exact absurd rfl hne
          · exact halive
      · rw [if_neg hindex] at hindices ⊢
        have hall := hvertices.append hindices
        have hsame : (fun object => object = .indexBuffer held.meshes ∨
            object = .vertexBuffer held.meshes ∨ held.alive object) =
            HeldObjects.alive { held with meshes := held.meshes + 1 } := by
          funext object
          cases object <;> simp [HeldObjects.alive] <;> omega
        exact hsame ▸ hall

theorem lives_releaseSwapChain (held : HeldObjects) :
    Lives Needs held.alive (releaseSwapChain held).1 (releaseSwapChain held).2.alive := by
  cases hswapChain : held.swapChain with
  | none =>
    simp only [releaseSwapChain, hswapChain]
    exact .nil _
  | some rebuild =>
    have hviews : Lives Needs held.alive (((List.range held.swapChainImageViews).map
        (.swapChainImageView rebuild)).map .destroy)
        (HeldObjects.alive { held with swapChainImageViews := 0 }) := by
      refine Lives.destroys ?_ ?_ ?_ ?_
      · exact List.nodup_range.map fun _ _ heq => (VulkanObject.swapChainImageView.inj heq).2
      · intro object hmem
        obtain ⟨index, hindex, rfl⟩ := List.mem_map.mp hmem
        exact ⟨hswapChain, List.mem_range.mp hindex⟩
      · intro object hmem
        obtain ⟨index, _, rfl⟩ := List.mem_map.mp hmem
        exact fun other _ => not_needs_unneeded rfl other
      · intro object
        cases object <;> simp [HeldObjects.alive, hswapChain]
        exact fun heq hindex => ⟨hindex, heq⟩
    simp only [releaseSwapChain, hswapChain]
    refine hviews.append (Lives.destroy_one hswapChain ?_ ?_)
    · intro other halive hneeds
      cases other <;> simp [Needs, VulkanObject.needs] at hneeds
      exact absurd halive.2 (Nat.not_lt_zero _)
    · intro object
      cases object <;> simp [HeldObjects.alive, hswapChain]
      exact Eq.symm

section Replace

variable {alive next : VulkanObject → Prop} {image view oldImage oldView : VulkanObject}

theorem lives_imageAndView (hdevice : alive .logicalDevice)
    (himage : image.needs = [.logicalDevice]) (hview : view.needs = [.logicalDevice, image])
    (hnewImage : ¬ alive image) (hnewView : ¬ alive view) (hne : view ≠ image) :
    Lives Needs alive ([image, view].map .create)
      fun object => object = view ∨ object = image ∨ alive object := by
  refine .create hnewImage ?_ (fun _ => Iff.rfl) (.create ?_ ?_ (fun _ => Iff.rfl) (.nil _))
  · intro other hneeds
    rw [Needs, himage] at hneeds
    rw [List.mem_singleton.mp hneeds]
    exact hdevice
  · rintro (hsame | halive)
    · exact hne hsame
    · exact hnewView halive
  · intro other hneeds
    rw [Needs, hview] at hneeds
    rcases List.mem_pair.mp hneeds with rfl | rfl
    · exact Or.inr hdevice
    · exact Or.inl rfl

theorem lives_destroyReplaced (holdView : alive oldView) (holdImage : alive oldImage)
    (hne : oldImage ≠ oldView) (hunneeded : oldView.unneeded = true)
    (hshown : ∀ other, Needs other oldImage → other = oldView)
    (hnext : ∀ object, next object ↔ (alive object ∧ object ≠ oldView) ∧ object ≠ oldImage) :
    Lives Needs alive [.destroy oldView, .destroy oldImage] next :=
  .destroy holdView (fun other _ => not_needs_unneeded hunneeded other) (fun _ => Iff.rfl)
    (.destroy ⟨holdImage, hne⟩ (fun other hother hneeds => hother.2 (hshown other hneeds))
      hnext (.nil next))

end Replace

theorem nodup_renderFinishedObjects (rebuild count : Nat) :
    (renderFinishedObjects rebuild count).Nodup :=
  List.nodup_range.map fun _ _ heq => (VulkanObject.renderFinishedSemaphore.inj heq).2

theorem mem_renderFinishedObjects {rebuild count : Nat} {object : VulkanObject} :
    object ∈ renderFinishedObjects rebuild count ↔
      ∃ index, index < count ∧ object = .renderFinishedSemaphore rebuild index := by
  simp [renderFinishedObjects, eq_comm]

theorem lives_recreateSemaphores (answers : RebuildAnswers) (held : HeldObjects)
    (hold : held.renderFinished < held.rebuilds) :
    Lives Needs held.alive (recreateSemaphores answers held).1
      (recreateSemaphores answers held).2.1.alive := by
  have hmade : Lives Needs held.alive
      ((renderFinishedObjects held.rebuilds held.swapChainImageViews).map .create)
      fun object => object ∈ renderFinishedObjects held.rebuilds held.swapChainImageViews ∨
        held.alive object := by
    refine Lives.creates (nodup_renderFinishedObjects _ _) ?_ ?_ fun _ => Iff.rfl
    · intro object hmem halive
      obtain ⟨index, _, rfl⟩ := mem_renderFinishedObjects.mp hmem
      exact Nat.ne_of_gt hold halive.1
    · intro object hmem other hneeds
      obtain ⟨index, _, rfl⟩ := mem_renderFinishedObjects.mp hmem
      rw [List.mem_singleton.mp hneeds]
      trivial
  unfold recreateSemaphores
  by_cases hcount : held.renderFinishedSemaphores = held.swapChainImageViews
  · rw [if_pos hcount]
    exact .nil _
  · rw [if_neg hcount]
    dsimp only
    cases hanswer : answers.renderFinishedSemaphores with
    | some made => exact hmade.acquire_failed held.closed made
    | none =>
      refine hmade.append (Lives.destroys (nodup_renderFinishedObjects _ _) ?_ ?_ ?_)
      · intro object hmem
        obtain ⟨index, hindex, rfl⟩ := mem_renderFinishedObjects.mp hmem
        exact Or.inr ⟨rfl, hindex⟩
      · intro object hmem
        obtain ⟨index, _, rfl⟩ := mem_renderFinishedObjects.mp hmem
        exact fun other _ => not_needs_unneeded rfl other
      · intro object
        cases object <;> simp [HeldObjects.alive, mem_renderFinishedObjects]
        rename_i rebuild index
        have hne : held.renderFinished ≠ held.rebuilds := Nat.ne_of_lt hold
        grind

theorem lives_recreateDepth (answers : RebuildAnswers) (held : HeldObjects)
    (hdepth : held.depth < held.rebuilds) (hold : held.renderFinished < held.rebuilds) :
    Lives Needs held.alive (recreateDepth answers held).1
      (recreateDepth answers held).2.1.alive := by
  have hnewImage : ¬ held.alive (.depthImage held.rebuilds) := Nat.ne_of_gt hdepth
  have hnewView : ¬ held.alive (.depthImageView held.rebuilds) := Nat.ne_of_gt hdepth
  have hmade := lives_imageAndView trivial rfl rfl hnewImage hnewView VulkanObject.noConfusion
  unfold recreateDepth
  dsimp only
  cases hanswer : answers.depth with
  | some made => exact hmade.acquire_failed held.closed made
  | none =>
    refine (hmade.append (lives_destroyReplaced ?_ ?_ ?_ rfl ?_ ?_)).append
      (lives_recreateSemaphores answers { held with depth := held.rebuilds } hold)
    · exact Or.inr (Or.inr rfl)
    · exact Or.inr (Or.inr rfl)
    · exact VulkanObject.noConfusion
    · intro other hneeds
      cases other <;> simp [Needs, VulkanObject.needs] at hneeds
      rw [hneeds]
    · intro object
      cases object <;> simp [HeldObjects.alive]
      all_goals grind

theorem lives_recreateMultisampleColor (answers : RebuildAnswers) (held : HeldObjects)
    (hcolor : held.multisampleColor < held.rebuilds) (hdepth : held.depth < held.rebuilds)
    (hold : held.renderFinished < held.rebuilds) :
    Lives Needs held.alive (recreateMultisampleColor answers held).1
      (recreateMultisampleColor answers held).2.1.alive := by
  have hnewImage : ¬ held.alive (.multisampleColorImage held.rebuilds) := Nat.ne_of_gt hcolor
  have hnewView : ¬ held.alive (.multisampleColorImageView held.rebuilds) := Nat.ne_of_gt hcolor
  have hmade := lives_imageAndView trivial rfl rfl hnewImage hnewView VulkanObject.noConfusion
  unfold recreateMultisampleColor
  dsimp only
  cases hanswer : answers.multisampleColor with
  | some made => exact hmade.acquire_failed held.closed made
  | none =>
    refine (hmade.append (lives_destroyReplaced ?_ ?_ ?_ rfl ?_ ?_)).append
      (lives_recreateDepth answers { held with multisampleColor := held.rebuilds } hdepth hold)
    · exact Or.inr (Or.inr rfl)
    · exact Or.inr (Or.inr rfl)
    · exact VulkanObject.noConfusion
    · intro other hneeds
      cases other <;> simp [Needs, VulkanObject.needs] at hneeds
      rw [hneeds]
    · intro object
      cases object <;> simp [HeldObjects.alive]
      all_goals grind

theorem lives_swapChainObjects (held : HeldObjects) (images : Nat)
    (hnone : held.swapChain = none) :
    Lives Needs held.alive ((swapChainObjects held.rebuilds images).map .create)
      (HeldObjects.alive { held with
        swapChain := some held.rebuilds
        swapChainImageViews := images }) := by
  have hswapChain : ¬ held.alive (.swapChain held.rebuilds) := by
    simp [HeldObjects.alive, hnone]
  refine .create hswapChain ?_ (fun _ => Iff.rfl) (Lives.creates ?_ ?_ ?_ ?_)
  · intro other hneeds
    rcases List.mem_pair.mp hneeds with rfl | rfl <;> trivial
  · exact List.nodup_range.map fun _ _ heq => (VulkanObject.swapChainImageView.inj heq).2
  · intro object hmem halive
    obtain ⟨index, _, rfl⟩ := List.mem_map.mp hmem
    simp [HeldObjects.alive, hnone] at halive
  · intro object hmem other hneeds
    obtain ⟨index, _, rfl⟩ := List.mem_map.mp hmem
    rcases List.mem_pair.mp hneeds with rfl | rfl
    · exact Or.inr trivial
    · exact Or.inl rfl
  · intro object
    cases object <;> simp [HeldObjects.alive, hnone]
    all_goals grind

theorem releaseSwapChain_swapChain (held : HeldObjects) :
    (releaseSwapChain held).2.swapChain = none := by
  unfold releaseSwapChain
  cases hswapChain : held.swapChain with
  | none => exact hswapChain
  | some rebuild => rfl

theorem releaseSwapChain_rest (held : HeldObjects) :
    (releaseSwapChain held).2.rebuilds = held.rebuilds ∧
      (releaseSwapChain held).2.multisampleColor = held.multisampleColor ∧
      (releaseSwapChain held).2.depth = held.depth ∧
      (releaseSwapChain held).2.renderFinished = held.renderFinished := by
  unfold releaseSwapChain
  cases held.swapChain <;> exact ⟨rfl, rfl, rfl, rfl⟩

theorem lives_rebuildSwapChain (answers : RebuildAnswers) {held : HeldObjects}
    (hpast : held.Past) :
    Lives Needs held.alive (rebuildSwapChain answers held).1
      (rebuildSwapChain answers held).2.1.alive := by
  unfold rebuildSwapChain
  by_cases hwaited : answers.waited = false
  · rw [if_pos hwaited]
    exact .use trivial (.nil _)
  · rw [if_neg hwaited]
    have hreleased := lives_releaseSwapChain { held with rebuilds := held.rebuilds + 1 }
    have hnone := releaseSwapChain_swapChain { held with rebuilds := held.rebuilds + 1 }
    obtain ⟨hrebuilds, hcolor, hdepth, hfinished⟩ :=
      releaseSwapChain_rest { held with rebuilds := held.rebuilds + 1 }
    rcases hrelease : releaseSwapChain { held with rebuilds := held.rebuilds + 1 } with
      ⟨released, rest⟩
    rw [hrelease] at hreleased hnone hrebuilds hcolor hdepth hfinished
    dsimp only at hreleased hnone hrebuilds hcolor hdepth hfinished ⊢
    have hmade := lives_swapChainObjects rest answers.images hnone
    cases hanswer : answers.swapChain with
    | some made => exact .use trivial (hreleased.append (hmade.acquire_failed rest.closed made))
    | none =>
      refine .use trivial ((hreleased.append hmade).append
        (lives_recreateMultisampleColor answers _ ?_ ?_ ?_))
      · exact hrebuilds ▸ hcolor ▸ Nat.lt_succ_of_le hpast.multisampleColor
      · exact hrebuilds ▸ hdepth ▸ Nat.lt_succ_of_le hpast.depth
      · exact hrebuilds ▸ hfinished ▸ Nat.lt_succ_of_le hpast.renderFinished

theorem nodup_swapChainImageViews (rebuild images : Nat) :
    ((List.range images).map (VulkanObject.swapChainImageView rebuild)).Nodup :=
  List.nodup_range.map fun _ _ heq => (VulkanObject.swapChainImageView.inj heq).2

def createdObjects (images : Nat) : List VulkanObject :=
  pipelineObjects images ++ ([.graphicsPipeline] ++ ([.commandPool] ++ ([.textureImage] ++
    (descriptorObjects ++ frameObjects images))))

/-- `createdObjects`, cut where an object needs one just made. -/
def createdBatches (images : Nat) : List (List VulkanObject) :=
  [[.vulkanInstance], [.debugMessenger, .surface, .logicalDevice], [.swapChain 0],
    (List.range images).map (.swapChainImageView 0), [.multisampleColorImage 0],
    [.multisampleColorImageView 0, .depthImage 0], [.depthImageView 0, .descriptorSetLayout],
    [.pipelineLayout], [.graphicsPipeline, .commandPool, .textureImage],
    [.textureImageView, .textureSampler] ++ eachFrame .uniformBuffer ++ [.descriptorPool],
    eachFrame .descriptorSet ++ eachFrame .commandBuffer, renderFinishedObjects 0 images,
    eachFrame .presentCompleteSemaphore ++ eachFrame .inFlightFence]

theorem lives_created (images : Nat) :
    Lives Needs (fun _ => False) ((createdObjects images).map .create)
      (HeldObjects.alive {
        swapChainImageViews := images
        renderFinishedSemaphores := images }) := by
  have hfinished := nodup_renderFinishedObjects 0 images
  rw [renderFinishedObjects] at hfinished
  have hstaged : Lives.Staged Needs [] (createdBatches images) := by
    simp [createdBatches, Lives.Staged, Needs, VulkanObject.needs, nodup_swapChainImageViews,
      hfinished, renderFinishedObjects, eachFrame, maxFramesInFlight, List.range_succ]
  apply Lives.of_staged hstaged
  · simp [createdBatches, createdObjects, pipelineObjects, descriptorObjects, frameObjects,
      swapChainObjects]
  · intro object
    cases object <;> simp [HeldObjects.alive, eachFrame, maxFramesInFlight, List.range_succ,
      renderFinishedObjects, createdObjects, pipelineObjects, descriptorObjects, frameObjects,
      swapChainObjects]
    all_goals grind

theorem lives_createGraphicsPipeline {alive next : VulkanObject → Prop}
    (h : Lives Needs alive ([.graphicsPipeline].map .create) next)
    (hdevice : alive .logicalDevice) (hmodule : ¬ alive .shaderModule) :
    Lives Needs alive createGraphicsPipeline next := by
  obtain @⟨⟩ | ⟨hnew, hneeds, hnext, hnil⟩ := h
  cases hnil
  refine .create hmodule ?_ (fun _ => Iff.rfl) (.use (Or.inl rfl) (.create ?_ ?_
    (fun _ => Iff.rfl) (Lives.destroy_one (Or.inr (Or.inl rfl))
      (fun other _ => not_needs_unneeded rfl other) ?_)))
  · intro other hneed
    rw [List.mem_singleton.mp hneed]
    exact hdevice
  · rintro (hsame | halive)
    · cases hsame
    · exact hnew halive
  · exact fun other hneed => Or.inr (hneeds other hneed)
  · intro object
    rw [hnext]
    constructor
    · rintro (rfl | halive)
      · exact ⟨Or.inl rfl, VulkanObject.noConfusion⟩
      · exact ⟨Or.inr (Or.inr halive), fun heq => hmodule (heq ▸ halive)⟩
    · rintro ⟨hsame | hsame | halive, hne⟩
      · exact Or.inl hsame
      · exact absurd hsame hne
      · exact Or.inr halive

theorem closed_nothing : Lives.Closed Needs fun _ => False := fun _ _ hpart => hpart.elim

def meshObjects (count : Nat) : List VulkanObject :=
  (List.range count).flatMap fun mesh => [.vertexBuffer mesh, .indexBuffer mesh]

theorem nodup_meshObjects (count : Nat) : (meshObjects count).Nodup := by
  refine List.nodup_flatMap.mpr ⟨fun mesh _ => by simp, ?_⟩
  refine List.nodup_range.imp fun {mesh mesh'} hne object hmem hmem' => ?_
  rcases List.mem_pair.mp hmem with rfl | rfl <;>
    rcases List.mem_pair.mp hmem' with heq | heq <;> cases heq <;> exact hne rfl

def HeldObjects.memberBatches (held : HeldObjects) : List (List VulkanObject) :=
  [[.vulkanInstance], [.debugMessenger, .surface, .logicalDevice],
    held.swapChain.toList.map .swapChain,
    held.swapChain.toList.flatMap fun rebuild =>
      (List.range held.swapChainImageViews).map (.swapChainImageView rebuild),
    [.descriptorSetLayout], [.pipelineLayout], [.graphicsPipeline, .commandPool],
    meshObjects held.meshes, [.textureImage],
    [.textureImageView, .textureSampler, .multisampleColorImage held.multisampleColor],
    [.multisampleColorImageView held.multisampleColor, .depthImage held.depth],
    [.depthImageView held.depth] ++ eachFrame .uniformBuffer ++ [.descriptorPool],
    eachFrame .descriptorSet ++ eachFrame .commandBuffer ++ eachFrame .presentCompleteSemaphore,
    renderFinishedObjects held.renderFinished held.renderFinishedSemaphores,
    eachFrame .inFlightFence]

/-- The members rely on members declared before them only. -/
theorem lives_members (held : HeldObjects) (hoverlay : held.debugUiOverlayEnabled = false) :
    Lives Needs (fun _ => False) (held.members.map .create) held.alive := by
  have hfinished := nodup_renderFinishedObjects held.renderFinished held.renderFinishedSemaphores
  have hmeshes := nodup_meshObjects held.meshes
  rw [renderFinishedObjects] at hfinished
  rw [meshObjects] at hmeshes
  have hstaged : Lives.Staged Needs [] held.memberBatches := by
    rw [HeldObjects.memberBatches]
    cases held.swapChain <;>
      simp [Lives.Staged, Needs, VulkanObject.needs, nodup_swapChainImageViews, hfinished, hmeshes,
        renderFinishedObjects, eachFrame, maxFramesInFlight, List.range_succ, meshObjects] <;>
      constructor <;> rintro _ mesh _ (rfl | rfl) <;> simp
  apply Lives.of_staged hstaged
  · cases hswapChain : held.swapChain <;>
      simp [HeldObjects.memberBatches, HeldObjects.members, hswapChain, swapChainObjects,
        meshObjects]
  · intro object
    cases hswapChain : held.swapChain <;> cases object <;>
      simp [HeldObjects.alive, eachFrame, maxFramesInFlight, List.range_succ,
        renderFinishedObjects, HeldObjects.members, swapChainObjects, hswapChain, hoverlay]
    all_goals grind

/-! ### The whole life -/

/-- What the members hold between two calls of a run. -/
structure HeldObjects.Whole (held : HeldObjects) : Prop extends held.Past where
  frameIndex : held.frameIndex < maxFramesInFlight
  swapChainMade : ∃ rebuild, held.swapChain = some rebuild
  renderFinishedSemaphores : held.renderFinishedSemaphores = held.swapChainImageViews

theorem recreateSemaphores_whole {answers : RebuildAnswers} {held : HeldObjects}
    (hpast : held.Past) (hframe : held.frameIndex < maxFramesInFlight)
    (hmade : ∃ rebuild, held.swapChain = some rebuild)
    (hok : (recreateSemaphores answers held).2.2 = true) :
    (recreateSemaphores answers held).2.1.Whole := by
  unfold recreateSemaphores at hok ⊢
  by_cases hcount : held.renderFinishedSemaphores = held.swapChainImageViews
  · rw [if_pos hcount]
    exact ⟨hpast, hframe, hmade, hcount⟩
  · rw [if_neg hcount] at hok ⊢
    dsimp only at hok ⊢
    by_cases hfails : answers.renderFinishedSemaphores.isSome = true
    · rw [if_pos hfails] at hok
      exact absurd hok Bool.false_ne_true
    · rw [if_neg hfails]
      exact ⟨{ hpast with renderFinished := Nat.le_refl _ }, hframe, hmade, rfl⟩

theorem recreateDepth_whole {answers : RebuildAnswers} {held : HeldObjects}
    (hpast : held.Past) (hframe : held.frameIndex < maxFramesInFlight)
    (hmade : ∃ rebuild, held.swapChain = some rebuild)
    (hok : (recreateDepth answers held).2.2 = true) :
    (recreateDepth answers held).2.1.Whole := by
  unfold recreateDepth at hok ⊢
  dsimp only at hok ⊢
  by_cases hfails : answers.depth.isSome = true
  · rw [if_pos hfails] at hok
    exact absurd hok Bool.false_ne_true
  · rw [if_neg hfails] at hok ⊢
    exact recreateSemaphores_whole { hpast with depth := Nat.le_refl _ } hframe hmade hok

theorem recreateMultisampleColor_whole {answers : RebuildAnswers} {held : HeldObjects}
    (hpast : held.Past) (hframe : held.frameIndex < maxFramesInFlight)
    (hmade : ∃ rebuild, held.swapChain = some rebuild)
    (hok : (recreateMultisampleColor answers held).2.2 = true) :
    (recreateMultisampleColor answers held).2.1.Whole := by
  unfold recreateMultisampleColor at hok ⊢
  dsimp only at hok ⊢
  by_cases hfails : answers.multisampleColor.isSome = true
  · rw [if_pos hfails] at hok
    exact absurd hok Bool.false_ne_true
  · rw [if_neg hfails] at hok ⊢
    exact recreateDepth_whole { hpast with multisampleColor := Nat.le_refl _ } hframe hmade hok

theorem rebuildSwapChain_whole {answers : RebuildAnswers} {held : HeldObjects}
    (hwhole : held.Whole) (hok : (rebuildSwapChain answers held).2.2 = true) :
    (rebuildSwapChain answers held).2.1.Whole := by
  obtain ⟨rebuild, hswapChain⟩ := hwhole.swapChainMade
  unfold rebuildSwapChain releaseSwapChain at hok ⊢
  by_cases hwaited : answers.waited = false
  · rw [if_pos hwaited] at hok
    exact absurd hok Bool.false_ne_true
  · rw [if_neg hwaited] at hok ⊢
    simp only [hswapChain] at hok ⊢
    by_cases hfails : answers.swapChain.isSome = true
    · rw [if_pos hfails] at hok
      exact absurd hok Bool.false_ne_true
    · rw [if_neg hfails] at hok ⊢
      refine recreateMultisampleColor_whole ⟨?_, ?_, ?_, ?_⟩ hwhole.frameIndex ⟨_, rfl⟩ hok
      · rintro _ heq
        cases heq
        exact Nat.le_refl _
      · exact Nat.le_succ_of_le hwhole.multisampleColor
      · exact Nat.le_succ_of_le hwhole.depth
      · exact Nat.le_succ_of_le hwhole.renderFinished

theorem drawnObjects_alive {held : HeldObjects} (hwhole : held.Whole) {imageIndex : Nat}
    (himage : imageIndex < held.swapChainImageViews) {meshes : List Nat} {overlay : Bool}
    (hmeshes : ∀ mesh ∈ meshes, mesh < held.meshes)
    (hoverlay : overlay = true → held.debugUiOverlayEnabled = true) :
    ∀ object ∈ drawnObjects held imageIndex meshes overlay, held.alive object := by
  obtain ⟨rebuild, hswapChain⟩ := hwhole.swapChainMade
  have hframe := hwhole.frameIndex
  have hview : held.alive (.swapChainImageView rebuild imageIndex) := ⟨hswapChain, himage⟩
  simp only [drawnObjects, hswapChain, Option.toList_some, List.map_cons, List.map_nil,
    List.forall_mem_append, List.forall_mem_cons, List.forall_mem_flatMap, List.not_mem_nil,
    false_imp_iff, implies_true, and_true]
  refine ⟨⟨⟨⟨⟨⟨⟨⟨⟨⟨trivial, hframe⟩, hswapChain⟩, hframe, hframe, hframe, hframe⟩, hswapChain⟩,
    rfl, rfl, rfl⟩, hview⟩, rfl, trivial, trivial, hframe, trivial, trivial⟩, ?_⟩, ?_⟩,
    hframe, hframe, ⟨rfl, hwhole.renderFinishedSemaphores ▸ himage⟩, hframe⟩
  · exact fun mesh hmesh => ⟨hmeshes mesh hmesh, hmeshes mesh hmesh⟩
  · split_ifs with hdrawn
    · simp only [List.forall_mem_append, List.forall_mem_singleton]
      exact ⟨hview, hoverlay hdrawn⟩
    · exact fun _ hmem => absurd hmem List.not_mem_nil

theorem lives_readImageToHost {held : HeldObjects} {rebuild : Nat}
    (hswapChain : held.swapChain = some rebuild) (made : Nat) :
    Lives Needs held.alive (readImageToHost held made) held.alive := by
  have hreadback : Lives Needs held.alive ([.readbackBuffer].map .create)
      fun object => object = .readbackBuffer ∨ held.alive object := by
    refine Lives.create_one id ?_ fun _ => Iff.rfl
    intro other hneeds
    rw [List.mem_singleton.mp hneeds]
    trivial
  have hboth : Lives Needs held.alive ([.readbackBuffer, .singleTimeCommands].map .create)
      fun object =>
        object = .singleTimeCommands ∨ object = .readbackBuffer ∨ held.alive object := by
    refine hreadback.append (Lives.create_one ?_ ?_ fun _ => Iff.rfl)
    · rintro (hsame | halive)
      · cases hsame
      · exact halive
    · intro other hneeds
      rcases List.mem_pair.mp hneeds with rfl | rfl <;> exact Or.inr trivial
  match made with
  | 0 => exact .nil _
  | 1 => exact hreadback.passing_lives held.closed fun _ hmem => absurd hmem List.not_mem_nil
  | made + 2 =>
    refine hboth.passing_lives held.closed ?_
    rw [hswapChain]
    rintro object hmem
    rcases List.mem_cons.mp hmem with rfl | hmem
    · exact Or.inr hswapChain
    · exact Or.inl hmem

theorem lives_drawFrameObjects {held : HeldObjects} (hwhole : held.Whole) {imageIndex : Nat}
    (himage : imageIndex < held.swapChainImageViews) (handles : List Nat) (drawData : Bool)
    (ending : FrameEnd) :
    Lives Needs held.alive (drawFrameObjects imageIndex handles drawData ending held).1
      held.alive := by
  obtain ⟨rebuild, hswapChain⟩ := hwhole.swapChainMade
  have hmeshes : ∀ mesh ∈ (handles.filter fun index =>
      index ≠ 0 ∧ index ≤ held.meshes).map (· - 1), mesh < held.meshes := by
    intro mesh hmesh
    obtain ⟨index, hindex, rfl⟩ := List.mem_map.mp hmesh
    obtain ⟨hvalid, hbound⟩ := of_decide_eq_true (List.mem_filter.mp hindex).2
    exact Nat.lt_of_lt_of_le (Nat.pred_lt hvalid) hbound
  have hoverlay : (held.debugUiOverlayEnabled && drawData) = true →
      held.debugUiOverlayEnabled = true := fun h => (Bool.and_eq_true_iff.mp h).1
  have hdrawn := drawnObjects_alive hwhole himage hmeshes hoverlay
  cases ending with
  | stopped uses =>
    exact .uses fun object hmem => hdrawn object (List.mem_of_mem_take hmem)
  | presented capture =>
    refine ((Lives.uses hdrawn).append ?_).append (.uses ?_)
    · cases capture with
      | none => exact .nil _
      | some made => exact .use trivial (lives_readImageToHost hswapChain made)
    · rw [hswapChain]
      exact List.forall_mem_cons.mpr ⟨⟨rfl, hwhole.renderFinishedSemaphores ▸ himage⟩,
        List.forall_mem_singleton.mpr hswapChain⟩

theorem acquireMesh_whole (answers : AcquireMeshAnswers) {held : HeldObjects}
    (hwhole : held.Whole) : (acquireMesh answers held).2.Whole := by
  unfold acquireMesh
  dsimp only
  split_ifs
  · exact hwhole
  · exact hwhole
  · exact hwhole
  · exact ⟨{ hwhole.toPast with }, hwhole.frameIndex, hwhole.swapChainMade,
      hwhole.renderFinishedSemaphores⟩

theorem lives_createObjects (images : Nat) (overlay : Bool) :
    Lives Needs (fun _ => False) (createObjects images overlay).1
      (createObjects images overlay).2.alive := by
  have hcreated := lives_created images
  simp only [createdObjects, List.map_append] at hcreated
  obtain ⟨base, hbase, hrest⟩ := hcreated.of_append
  obtain ⟨piped, hpiped, hrest⟩ := hrest.of_append
  obtain ⟨pooled, hpooled, hrest⟩ := hrest.of_append
  obtain ⟨textured, htextured, hrest⟩ := hrest.of_append
  obtain ⟨described, hdescribed, hframes⟩ := hrest.of_append
  have hpipeline : Lives Needs base createGraphicsPipeline piped := by
    refine lives_createGraphicsPipeline hpiped ?_ ?_ <;> rw [hbase.creates_iff] <;>
      simp [pipelineObjects, swapChainObjects]
  have hclosed := (hbase.append (hpiped.append hpooled)).closed closed_nothing
  have hpool (object : VulkanObject) : pooled object ↔
      object = .commandPool ∨ object = .graphicsPipeline ∨ object ∈ pipelineObjects images := by
    rw [hpooled.creates_iff, hpiped.creates_iff, hbase.creates_iff]
    simp
  have htexture : Lives Needs pooled createTextureImage textured := by
    refine lives_createDeviceLocalBuffer hclosed ?_ rfl ?_ ?_ ?_ (by simp) ?_ none <;>
      simp [hpool, htextured.creates_iff, pipelineObjects, swapChainObjects]
  have hwritten : ∀ object ∈ writtenObjects, described object := by
    intro object hmem
    rw [hdescribed.creates_iff]
    refine Or.inl ?_
    simp only [writtenObjects, descriptorObjects, List.mem_append, List.mem_cons] at hmem ⊢
    tauto
  have hoverlay : Lives Needs (createObjects images false).2.alive
      (if overlay then [.create .overlayBackend] else [])
      (createObjects images overlay).2.alive := by
    cases overlay with
    | false => exact .nil _
    | true =>
      refine Lives.create_one Bool.false_ne_true ?_ ?_
      · intro other hneeds
        rw [List.mem_singleton.mp hneeds]
        trivial
      · intro object
        cases object <;> simp [HeldObjects.alive, createObjects]
  exact ((((((hbase.append hpipeline).append hpooled).append htexture).append hdescribed).append
    (.uses hwritten)).append hframes).append hoverlay

theorem lives_beginDebugUiFrame (held : HeldObjects) :
    Lives Needs held.alive (beginDebugUiFrame held) held.alive := by
  rw [beginDebugUiFrame]
  split_ifs with henabled
  · exact .use henabled (.nil _)
  · exact .nil _

theorem RendererRun.lives {calls : List ObjectCall} {held : HeldObjects}
    (h : RendererRun calls held) :
    held.Whole ∧ Lives Needs (fun _ => False) calls held.alive := by
  induction h with
  | created images overlay =>
    refine ⟨⟨⟨?_, Nat.le_refl _, Nat.le_refl _, Nat.le_refl _⟩, ?_, ⟨0, rfl⟩, rfl⟩,
      lives_createObjects images overlay⟩
    · rintro _ heq
      cases heq
      exact Nat.le_refl _
    · exact Nat.zero_lt_two
  | acquiredMesh answers _ ih =>
    exact ⟨acquireMesh_whole answers ih.1, ih.2.append (lives_acquireMesh answers _)⟩
  | begunDebugUiFrame _ ih => exact ⟨ih.1, ih.2.append (lives_beginDebugUiFrame _)⟩
  | drawn imageIndex handles drawData ending _ himage ih =>
    obtain ⟨hwhole, hlives⟩ := ih
    have hdrawn := hlives.append (lives_drawFrameObjects hwhole himage handles drawData ending)
    cases ending with
    | stopped uses => exact ⟨hwhole, hdrawn⟩
    | presented capture =>
      exact ⟨⟨{ hwhole.toPast with }, Nat.mod_lt _ (by decide), hwhole.swapChainMade,
        hwhole.renderFinishedSemaphores⟩, hdrawn⟩
  | rebuilt answers _ hok ih =>
    exact ⟨rebuildSwapChain_whole ih.1 hok,
      ih.2.append (lives_rebuildSwapChain answers ih.1.toPast)⟩

theorem lives_destroyObjects (held : HeldObjects) :
    Lives Needs held.alive (destroyObjects held) fun _ => False := by
  refine .use trivial ?_
  cases hoverlay : held.debugUiOverlayEnabled with
  | false =>
    rw [if_neg Bool.false_ne_true, List.nil_append]
    exact (lives_members held hoverlay).unwind closed_nothing
  | true =>
    rw [if_pos rfl]
    have hmembers := lives_members { held with debugUiOverlayEnabled := false } rfl
    refine Lives.append ?_ (hmembers.unwind closed_nothing)
    refine Lives.destroy_one hoverlay (fun other _ => not_needs_unneeded rfl other) ?_
    intro object
    cases object <;> simp [HeldObjects.alive]

/-- However the renderer was used, and wherever its last rebuild failed, `Teardown` and the
destructor after it leave nothing, and no call on the way broke the rules of lifetimes. -/
theorem renderer_lives {calls : List ObjectCall} {held : HeldObjects} (h : RendererRun calls held)
    (last : Option RebuildAnswers) :
    let ending := (last.map fun answers => rebuildSwapChain answers held).getD ([], held, true)
    Lives Needs (fun _ => False) (calls ++ ending.1 ++ destroyObjects ending.2.1)
      fun _ => False := by
  obtain ⟨hwhole, hlives⟩ := h.lives
  cases last with
  | none =>
    refine Lives.append ?_ (lives_destroyObjects held)
    exact (List.append_nil calls).symm ▸ hlives
  | some answers =>
    exact (hlives.append (lives_rebuildSwapChain answers hwhole.toPast)).append
      (lives_destroyObjects _)

/-- The swap chain is released, and the new depth image gets no view. -/
def lostDepth : RebuildAnswers where
  waited := true
  images := 2
  swapChain := none
  multisampleColor := none
  depth := some 1
  renderFinishedSemaphores := none

/-- A frame is captured, a second one finds its swap chain out of date. -/
theorem renderer_lives_lostDepth :
    let created := createObjects 3 true
    let captured := drawFrameObjects 2 [0, 1] true (.presented (some 2)) created.2
    let outdated := drawFrameObjects 0 [] true (.stopped 4) captured.2
    Lives Needs (fun _ => False)
      ((created.1 ++ captured.1 ++ outdated.1) ++
        (rebuildSwapChain lostDepth outdated.2).1 ++
        destroyObjects (rebuildSwapChain lostDepth outdated.2).2.1) fun _ => False :=
  renderer_lives (.drawn 0 [] true (.stopped 4) (.drawn 2 [0, 1] true (.presented (some 2))
    (.created 3 true) (by decide)) (by decide)) (some lostDepth)

end PlaygroundEngine.Renderer
