import PlaygroundEngine.Engine

/-!
# The engine's life

Whatever `Boot` and the frames run into: no part is used before it is there or after it is gone,
none is given back under one that relies on it, and a run that returns has given back all of them.
-/

namespace PlaygroundEngine

open Library
set_option autoImplicit false

def EnginePart.Needs (part other : EnginePart) : Prop := other ∈ part.needs

namespace Engine

def alive (engine : Engine) : EnginePart → Prop
  | .windowServer => engine.windowServer = true
  | .window => engine.window = true
  | .imGuiContext => engine.debugUi = true
  | .renderer => engine.rendererVulkan = true
  | .swapChain => engine.swapChain = true
  | .overlayBackend => engine.debugUiOverlayEnabled = true
  | .backendFrame | .imGuiFrame => engine.frameOpen = true
  | .drawData => False
  | .agentChannel => engine.agentChannel = true
  | .ecs => engine.ecs = true
  | .app => engine.app = true

theorem alive_none : ({} : Engine).alive = fun _ => False := by
  funext part
  cases part <;> simp [alive]

/-- What relies on what is there, apart from an open frame. -/
structure Wired (engine : Engine) : Prop where
  window : engine.window = true → engine.windowServer = true
  debugUi : engine.debugUi = true → engine.windowServer = true
  rendererVulkan : engine.rendererVulkan = true →
    engine.windowServer = true ∧ engine.window = true
  swapChain : engine.swapChain = true → engine.rendererVulkan = true
  debugUiOverlayEnabled : engine.debugUiOverlayEnabled = true →
    engine.debugUi = true ∧ engine.rendererVulkan = true
  app : engine.app = true → engine.ecs = true
  frameOpen : engine.frameOpen = false

/-- What the loop starts its steps with. -/
structure Running (engine : Engine) : Prop extends Wired engine where
  /-- The debug UI was dropped if its overlay did not come up. -/
  overlay : engine.debugUi = true → engine.debugUiOverlayEnabled = true
  renderer_swapChain : engine.rendererVulkan = true → engine.swapChain = true
  ecs : engine.ecs = true
  has_app : engine.app = true

theorem lives_bootPresentation (answers : BootAnswers) :
    Lives EnginePart.Needs (alive {}) (bootPresentation answers {}).1
      (bootPresentation answers {}).2.1.alive := by
  have hserver : Lives EnginePart.Needs (alive {}) [.create .windowServer]
      (alive { windowServer := true }) := by
    refine Lives.create_one (by simp [alive]) (by simp [EnginePart.Needs, EnginePart.needs]) ?_
    intro other
    cases other <;> simp [alive]
  unfold bootPresentation
  by_cases hcreated : answers.windowServerCreated = false
  · rw [if_pos hcreated]
    exact .nil _
  · rw [if_neg hcreated]
    dsimp only
    by_cases hwindow : answers.windowCreated = false
    · rw [if_pos hwindow]
      exact hserver
    · rw [if_neg hwindow]
      refine hserver.append (Lives.create_one (by simp [alive]) ?_ ?_)
      · simp [EnginePart.Needs, EnginePart.needs, alive]
      · intro other
        cases other <;> simp [alive]

theorem lives_bootDebugUi (answers : BootAnswers) {engine : Engine} (hwired : engine.Wired)
    (hwindow : engine.window = true) (hnone : engine.debugUi = false) :
    Lives EnginePart.Needs engine.alive (bootDebugUi answers engine).1
      (bootDebugUi answers engine).2.alive := by
  unfold bootDebugUi
  by_cases hdevelopment : answers.development = true
  · rw [if_pos hdevelopment]
    refine .use hwindow (Lives.create_one (by simp [alive, hnone]) ?_ ?_)
    · rintro other hneeds
      rw [List.mem_singleton.mp hneeds]
      exact hwired.window hwindow
    · intro other
      cases other <;> simp [alive]
  · rw [if_neg hdevelopment]
    exact .nil _

theorem lives_createRenderer (answers : BootAnswers) {engine : Engine}
    (hserver : engine.windowServer = true) (hwindow : engine.window = true)
    (hnone : engine.rendererVulkan = false ∧ engine.swapChain = false ∧
      engine.debugUiOverlayEnabled = false) :
    Lives EnginePart.Needs engine.alive (createRenderer answers engine).1
      (createRenderer answers engine).2.alive := by
  obtain ⟨hrenderer, hswapChain, hoverlay⟩ := hnone
  have hcreated : Lives EnginePart.Needs engine.alive
      [.use .windowServer, .use .window, .create .renderer, .create .swapChain]
      (alive { engine with
        rendererVulkan := true
        swapChain := true
        debugUiOverlayEnabled := false }) := by
    refine .use hserver (.use hwindow (.create (by simp [alive, hrenderer]) ?_ (fun _ => Iff.rfl)
      (Lives.create_one (by simp [alive, hswapChain]) ?_ ?_)))
    · intro other hneeds
      rcases List.mem_pair.mp hneeds with rfl | rfl
      · exact hserver
      · exact hwindow
    · intro other hneeds
      exact Or.inl (List.mem_singleton.mp hneeds)
    · intro other
      cases other <;> simp [alive, hoverlay]
  unfold createRenderer
  cases hui : engine.debugUi && answers.overlayInitialized with
  | false => exact hcreated.append (.nil _)
  | true =>
    refine hcreated.append (Lives.create_one ?_ ?_ ?_)
    · simp [alive]
    · intro other hneeds
      rcases List.mem_pair.mp hneeds with rfl | rfl
      · exact (Bool.and_eq_true_iff.mp hui).1
      · rfl
    · intro other
      cases other <;> simp [alive]

/-- The windows are there or not, and nothing else is. -/
def Presented (engine : Engine) : Prop :=
  engine = {} ∨ engine = { windowServer := true, window := true }

theorem bootDebugUi_snd (answers : BootAnswers) :
    (bootDebugUi answers { windowServer := true, window := true }).2 =
      { windowServer := true, window := true, debugUi := answers.development } := by
  unfold bootDebugUi
  cases answers.development <;> rfl

theorem lives_bootRendering (answers : BootAnswers) {engine : Engine} (h : engine.Presented) :
    Lives EnginePart.Needs engine.alive (bootRendering answers engine).1
      (bootRendering answers engine).2.1.alive := by
  rcases h with rfl | rfl
  · exact .nil _
  · have hwired : ({ windowServer := true, window := true } : Engine).Wired := by
      constructor <;> simp
    have hdebugUi := lives_bootDebugUi answers hwired rfl rfl
    have hshown := bootDebugUi_snd answers
    unfold bootRendering
    rw [if_neg (by simp)]
    rcases hboot : bootDebugUi answers { windowServer := true, window := true } with ⟨ui, shown⟩
    rw [hboot] at hdebugUi hshown
    dsimp only at hdebugUi hshown ⊢
    by_cases hcreated : answers.rendererCreated = false
    · rw [if_pos hcreated]
      exact hdebugUi
    · rw [if_neg hcreated]
      subst hshown
      have hrenderer := hdebugUi.append
        (lives_createRenderer answers rfl rfl ⟨rfl, rfl, rfl⟩)
      rcases hcreate : createRenderer answers _ with ⟨renderer, rendered⟩
      have hrendered := congrArg Prod.snd hcreate
      rw [hcreate] at hrenderer
      dsimp only at hrenderer hrendered ⊢
      split_ifs with hdropped
      · rw [← hrendered] at hrenderer hdropped ⊢
        refine hrenderer.append (.use rfl (Lives.destroy_one hdropped.1 ?_ ?_))
        · intro other halive hneeds
          cases other <;> simp [EnginePart.Needs, EnginePart.needs] at hneeds
          · exact Bool.false_ne_true (hdropped.2.symm.trans halive)
          · exact Bool.false_ne_true halive
          · exact halive
        · intro other
          cases other <;> simp [alive]
      · exact hrenderer

theorem bootPresentation_engine {answers : BootAnswers}
    (h : (bootPresentation answers {}).2.2 = none) :
    (bootPresentation answers {}).2.1 = { windowServer := true, window := true } := by
  unfold bootPresentation at *
  by_cases hserver : answers.windowServerCreated = false
  · rw [if_pos hserver] at h
    cases h
  · rw [if_neg hserver] at h ⊢
    dsimp only at h ⊢
    by_cases hwindow : answers.windowCreated = false
    · rw [if_pos hwindow] at h
      cases h
    · rw [if_neg hwindow]

theorem bootRendering_engine {answers : BootAnswers} {engine : Engine}
    (hpresented : engine.Presented) (h : (bootRendering answers engine).2.2 = none) :
    (bootRendering answers engine).2.1 = {
      windowServer := true
      window := true
      debugUi := answers.development && answers.overlayInitialized
      rendererVulkan := true
      swapChain := true
      debugUiOverlayEnabled := answers.development && answers.overlayInitialized } := by
  rcases hpresented with rfl | rfl
  · cases h
  · have hshown := bootDebugUi_snd answers
    unfold bootRendering at *
    rw [if_neg (by simp)] at h ⊢
    dsimp only at h ⊢
    rw [hshown] at h ⊢
    by_cases hcreated : answers.rendererCreated = false
    · rw [if_pos hcreated] at h
      cases h
    · rw [if_neg hcreated]
      unfold createRenderer
      cases answers.development <;> cases answers.overlayInitialized <;> rfl

def bootStages (answers : BootAnswers) : List EngineCall × Engine × Option BootError :=
  let presentation :=
    if answers.capabilities.presentation then bootPresentation answers {} else ([], {}, none)
  if presentation.2.2.isSome then presentation
  else
    let rendering :=
      if answers.capabilities.rendering then bootRendering answers presentation.2.1
      else ([], presentation.2.1, none)
    (presentation.1 ++ rendering.1, rendering.2)

theorem boot_eq (answers : BootAnswers) :
    boot answers {} =
      if (bootStages answers).2.2.isSome then bootStages answers
      else ((bootStages answers).1 ++ (bootApp answers (bootStages answers).2.1).1,
        (bootApp answers (bootStages answers).2.1).2, none) := by
  unfold boot bootStages
  dsimp only
  split_ifs <;> simp_all

theorem lives_bootStages (answers : BootAnswers) :
    Lives EnginePart.Needs (alive {}) (bootStages answers).1 (bootStages answers).2.1.alive := by
  have hpresentation := lives_bootPresentation answers
  have hpresented := @bootPresentation_engine answers
  unfold bootStages
  dsimp only
  by_cases hasked : answers.capabilities.presentation = true
  · rw [if_pos hasked]
    cases herror : (bootPresentation answers {}).2.2 with
    | some error =>
      rw [if_pos Option.isSome_some]
      exact hpresentation
    | none =>
      rw [if_neg (by simp)]
      split_ifs
      · exact hpresentation.append (lives_bootRendering answers (Or.inr (hpresented herror)))
      · exact hpresentation.append (.nil _)
  · rw [if_neg hasked, if_neg (by simp)]
    split_ifs
    · exact lives_bootRendering answers (Or.inl rfl)
    · exact .nil _

/-- What a boot hands to its last part. -/
structure Staged (engine : Engine) : Prop extends Wired engine where
  overlay : engine.debugUi = true → engine.debugUiOverlayEnabled = true
  renderer_swapChain : engine.rendererVulkan = true → engine.swapChain = true
  unmade : engine.agentChannel = false ∧ engine.ecs = false ∧ engine.app = false

theorem Presented.staged {engine : Engine} (h : engine.Presented) : engine.Staged := by
  rcases h with rfl | rfl <;> refine ⟨⟨?_, ?_, ?_, ?_, ?_, ?_, rfl⟩, ?_, ?_, ?_⟩ <;> simp

theorem staged_bootRendering {answers : BootAnswers} {engine : Engine}
    (hpresented : engine.Presented) (h : (bootRendering answers engine).2.2 = none) :
    (bootRendering answers engine).2.1.Staged := by
  rw [bootRendering_engine hpresented h]
  refine ⟨⟨?_, ?_, ?_, ?_, ?_, ?_, rfl⟩, ?_, ?_, ?_⟩ <;> simp

theorem staged_bootStages {answers : BootAnswers} (h : (bootStages answers).2.2 = none) :
    (bootStages answers).2.1.Staged := by
  have hpresented := @bootPresentation_engine answers
  unfold bootStages at *
  dsimp only at *
  by_cases hasked : answers.capabilities.presentation = true
  · rw [if_pos hasked] at *
    cases herror : (bootPresentation answers {}).2.2 with
    | some error => simp [herror] at h
    | none =>
      have hengine : (bootPresentation answers {}).2.1.Presented := Or.inr (hpresented herror)
      rw [herror] at h
      rw [if_neg (by simp)] at h ⊢
      split_ifs at h ⊢
      · exact staged_bootRendering hengine h
      · exact hengine.staged
  · rw [if_neg hasked] at *
    rw [if_neg (by simp)] at h ⊢
    split_ifs at h ⊢
    · exact staged_bootRendering (Or.inl rfl) h
    · exact Presented.staged (Or.inl rfl)

theorem lives_bootApp (answers : BootAnswers) {engine : Engine} (h : engine.Staged) :
    Lives EnginePart.Needs engine.alive (bootApp answers engine).1
      (bootApp answers engine).2.alive := by
  obtain ⟨hchannel, hecs, happ⟩ := h.unmade
  have hstarted : Lives EnginePart.Needs engine.alive
      (if answers.channelStarted then [.create .agentChannel] else [])
      (alive { engine with agentChannel := answers.channelStarted }) := by
    cases answers.channelStarted with
    | false =>
      have hsame : ({ engine with agentChannel := false } : Engine) = engine := by
        rw [← hchannel]
      rw [hsame]
      exact .nil _
    | true =>
      refine Lives.create_one (by simp [alive, hchannel]) nofun ?_
      intro other
      cases other <;> simp [alive]
  refine hstarted.append (.create ?_ nofun (fun _ => Iff.rfl) (.create ?_ ?_ ?_ (.use ?_ (.nil _))))
  · simp [alive, hecs]
  · simp [alive, happ]
  · intro other hneeds
    exact Or.inl (List.mem_singleton.mp hneeds)
  · intro other
    cases other <;> simp [alive, bootApp]
  · rfl

theorem lives_boot (answers : BootAnswers) :
    Lives EnginePart.Needs (alive {}) (boot answers {}).1 (boot answers {}).2.1.alive := by
  have hstages := lives_bootStages answers
  rw [boot_eq]
  cases herror : (bootStages answers).2.2 with
  | some error =>
    rw [if_pos Option.isSome_some]
    exact hstages
  | none =>
    rw [if_neg (by simp)]
    exact hstages.append (lives_bootApp answers (staged_bootStages herror))

theorem running_boot {answers : BootAnswers} (h : (boot answers {}).2.2 = none) :
    (boot answers {}).2.1.Running := by
  rw [boot_eq] at *
  cases herror : (bootStages answers).2.2 with
  | some error =>
    rw [herror, if_pos Option.isSome_some] at h
    rw [herror] at h
    cases h
  | none =>
    rw [if_neg (by simp)]
    have hstaged := staged_bootStages herror
    exact { hstaged with app := fun _ => rfl, ecs := rfl, has_app := rfl }

variable {F : Type} [Zero F]

/-- The parts between two calls of a step that may hold draw data. -/
def aliveDrawing (drawData : Bool) (engine : Engine) (part : EnginePart) : Prop :=
  engine.alive part ∨ part = .drawData ∧ drawData = true

theorem aliveDrawing_false (engine : Engine) : engine.aliveDrawing false = engine.alive := by
  funext part
  simp [aliveDrawing]

theorem lives_pumpParts (answers : StepAnswers F) (engine : Engine) :
    Lives EnginePart.Needs engine.alive (useAll (pumpParts answers engine)) engine.alive := by
  refine .uses fun part hpart => ?_
  simp only [pumpParts, List.mem_append] at hpart
  rcases hpart with ((hserver | hchannel) | hresized) | hcapture
  · split_ifs at hserver with h <;> simp_all [alive]
  · split_ifs at hchannel with h <;> simp_all [alive]
  · split_ifs at hresized with h <;> simp_all [alive]
  · split_ifs at hcapture with h <;> simp_all [alive]

theorem lives_beginDebugUiFrame {engine : Engine} (h : engine.Running) :
    Lives EnginePart.Needs engine.alive (beginDebugUiFrame engine).1
      (beginDebugUiFrame engine).2.alive := by
  unfold beginDebugUiFrame
  by_cases hopens : engine.debugUi = true ∧ engine.window = true
  · have hoverlay := h.overlay hopens.1
    have hrenderer := (h.debugUiOverlayEnabled hoverlay).2
    rw [if_pos hopens, if_pos ⟨hrenderer, hoverlay⟩]
    refine .use hrenderer (.use hoverlay (.create ?_ ?_ (fun _ => Iff.rfl)
      (.use ?_ (.use ?_ (Lives.create_one ?_ ?_ ?_)))))
    · simp [alive, h.frameOpen]
    · intro other hneeds
      rw [List.mem_singleton.mp hneeds]
      exact hoverlay
    · exact Or.inr hopens.2
    · exact Or.inr hopens.1
    · simp [alive, h.frameOpen]
    · intro other hneeds
      rcases List.mem_pair.mp hneeds with rfl | rfl
      · exact Or.inr hopens.1
      · exact Or.inl rfl
    · intro other
      cases other <;> simp [alive]
  · rw [if_neg hopens]
    exact .nil _

theorem beginDebugUiFrame_engine {engine : Engine} (h : engine.Running) :
    ∃ frameOpen : Bool, (beginDebugUiFrame engine).2 = { engine with frameOpen := frameOpen } ∧
      (frameOpen = true → engine.debugUi = true) := by
  unfold beginDebugUiFrame
  by_cases hopens : engine.debugUi = true ∧ engine.window = true
  · rw [if_pos hopens]
    exact ⟨true, rfl, fun _ => hopens.1⟩
  · rw [if_neg hopens]
    refine ⟨false, ?_, Bool.noConfusion⟩
    rw [← h.frameOpen]

theorem lives_stepParts {engine : Engine} (answers : StepAnswers F) (happ : engine.app = true)
    (hecs : engine.ecs = true) :
    Lives EnginePart.Needs engine.alive (useAll (stepParts answers engine)) engine.alive := by
  refine .uses fun part hpart => ?_
  simp only [stepParts, List.mem_append] at hpart
  rcases hpart with (hsimulated | hpanel) | hsettings
  · rcases List.mem_pair.mp hsimulated with rfl | rfl
    · exact happ
    · exact hecs
  · split_ifs at hpanel with hopen
    · rw [(List.mem_replicate.mp hpanel).2]
      exact hopen
    · cases hpanel
  · split_ifs at hsettings with hopen
    · rw [List.mem_singleton.mp hsettings]
      exact hopen.2
    · cases hsettings

theorem lives_endDebugUiFrame {engine : Engine} (h : engine.Running) {frameOpen : Bool}
    (hopen : frameOpen = true → engine.debugUi = true) :
    Lives EnginePart.Needs (alive { engine with frameOpen := frameOpen })
      (endDebugUiFrame { engine with frameOpen := frameOpen }).1
      (engine.aliveDrawing (endDebugUiFrame { engine with frameOpen := frameOpen }).2.2) := by
  have hclosed := h.frameOpen
  unfold endDebugUiFrame
  cases frameOpen with
  | false =>
    rw [if_neg (by simp), aliveDrawing_false]
    have hsame : ({ engine with frameOpen := false } : Engine) = engine := by rw [← hclosed]
    rw [hsame]
    exact .nil _
  | true =>
    have hdebugUi := hopen rfl
    rw [if_pos ⟨hdebugUi, rfl⟩]
    refine .destroy rfl ?_ (fun _ => Iff.rfl) (.destroy ⟨rfl, EnginePart.noConfusion⟩ ?_
      (fun _ => Iff.rfl) (Lives.create_one ?_ ?_ ?_))
    · intro other _ hneeds
      cases other <;> simp [EnginePart.Needs, EnginePart.needs] at hneeds
    · intro other hother hneeds
      cases other <;> simp [EnginePart.Needs, EnginePart.needs] at hneeds
      exact hother.2 rfl
    · simp [alive]
    · intro other hneeds
      rcases List.mem_pair.mp hneeds with rfl | rfl
      · exact ⟨⟨hdebugUi, EnginePart.noConfusion⟩, EnginePart.noConfusion⟩
      · exact ⟨⟨h.overlay hdebugUi, EnginePart.noConfusion⟩, EnginePart.noConfusion⟩
    · intro other
      cases other <;> simp [aliveDrawing, alive, hclosed]

theorem endDebugUiFrame_engine {engine : Engine} (h : engine.Running) {frameOpen : Bool}
    (hopen : frameOpen = true → engine.debugUi = true) :
    (endDebugUiFrame { engine with frameOpen := frameOpen }).2.1 = engine := by
  have hclosed := h.frameOpen
  unfold endDebugUiFrame
  cases frameOpen with
  | false =>
    rw [if_neg (by simp), ← hclosed]
  | true =>
    rw [if_pos ⟨hopen rfl, rfl⟩, ← hclosed]

theorem lives_drawParts {engine : Engine} (h : engine.Running) (answers : StepAnswers F)
    (drawData : Bool) :
    Lives EnginePart.Needs (engine.aliveDrawing drawData)
      (useAll (drawParts answers drawData engine)) (engine.aliveDrawing drawData) := by
  refine .uses fun part hpart => ?_
  rcases List.mem_append.mp hpart with hcursor | hdraw
  · split_ifs at hcursor with hwindow hdebugUi
    · rcases List.mem_pair.mp hcursor with rfl | rfl
      · exact Or.inl hdebugUi
      · exact Or.inl hwindow
    · rw [List.mem_singleton.mp hcursor]
      exact Or.inl hwindow
    · cases hcursor
  · by_cases hdraws : engine.rendererVulkan = true ∧ engine.window = true
    · obtain ⟨hrenderer, hwindow⟩ := hdraws
      rw [if_pos ⟨hrenderer, hwindow⟩] at hdraw
      rcases List.mem_append.mp hdraw with hframe | hoverlay
      · have hswapChain := h.renderer_swapChain hrenderer
        have hecs := h.ecs
        simp only [List.mem_append, List.mem_cons, List.mem_replicate, List.not_mem_nil,
          or_false] at hframe
        rcases hframe with (rfl | ⟨_, rfl⟩) | rfl | rfl | rfl | rfl <;> exact Or.inl ‹_›
      · split_ifs at hoverlay with hshown
        · rcases List.mem_pair.mp hoverlay with rfl | rfl
          · exact Or.inl hshown.2
          · exact Or.inr ⟨rfl, hshown.1⟩
        · cases hoverlay
    · rw [if_neg hdraws] at hdraw
      cases hdraw

theorem lives_endStep {engine : Engine} (h : engine.Running) (drawData lost : Bool)
    (hlost : lost = true → engine.rendererVulkan = true) :
    Lives EnginePart.Needs (engine.aliveDrawing drawData)
      ((if lost then [.destroy .swapChain] else []) ++
        (if drawData then [.destroy .drawData] else []))
      (if lost then { engine with swapChain := false } else engine).alive := by
  have hdrawn : ∀ engine : Engine, Lives EnginePart.Needs (engine.aliveDrawing drawData)
      (if drawData then [.destroy .drawData] else []) engine.alive := by
    intro engine
    cases drawData with
    | false =>
      rw [aliveDrawing_false]
      exact .nil _
    | true =>
      refine Lives.destroy_one (Or.inr ⟨rfl, rfl⟩) ?_ ?_
      · intro other _ hneeds
        cases other <;> simp [EnginePart.Needs, EnginePart.needs] at hneeds
      · intro other
        cases other <;> simp [aliveDrawing, alive]
  cases lost with
  | false => exact hdrawn engine
  | true =>
    have hswapChain := h.renderer_swapChain (hlost rfl)
    refine Lives.append (Lives.destroy_one (Or.inl hswapChain) ?_ ?_)
      (hdrawn { engine with swapChain := false })
    · intro other _ hneeds
      cases other <;> simp [EnginePart.Needs, EnginePart.needs] at hneeds
    · intro other
      cases other <;> simp [aliveDrawing, alive]

theorem runStep_engine {engine : Engine} (h : engine.Running) (answers : StepAnswers F) :
    (runStep answers engine).2 =
      if losesSwapChain answers engine then { engine with swapChain := false } else engine := by
  obtain ⟨frameOpen, hbegin, hopen⟩ := beginDebugUiFrame_engine h
  unfold runStep
  dsimp only
  rw [hbegin, endDebugUiFrame_engine h hopen]

theorem lives_runStep {engine : Engine} (h : engine.Running) (answers : StepAnswers F) :
    Lives EnginePart.Needs engine.alive (runStep answers engine).1
      (runStep answers engine).2.alive := by
  have hopened := lives_beginDebugUiFrame h
  obtain ⟨frameOpen, hbegin, hopen⟩ := beginDebugUiFrame_engine h
  have hpumped := lives_pumpParts answers engine
  have hstepped := @lives_stepParts F _ { engine with frameOpen := frameOpen } answers
    h.has_app h.ecs
  have hclosed := lives_endDebugUiFrame h hopen
  have hlost : losesSwapChain answers engine = true → engine.rendererVulkan = true := fun hlost =>
    (Bool.and_eq_true_iff.mp (Bool.and_eq_true_iff.mp hlost).1).1
  rw [runStep_engine h]
  unfold runStep
  dsimp only
  rw [hbegin] at hopened ⊢
  rw [endDebugUiFrame_engine h hopen]
  have hdrawn := lives_drawParts h answers
    (endDebugUiFrame { engine with frameOpen := frameOpen }).2.2
  have hended := lives_endStep h
    (endDebugUiFrame { engine with frameOpen := frameOpen }).2.2 _ hlost
  have hall := ((((hpumped.append hopened).append hstepped).append hclosed).append hdrawn).append
    hended
  rw [← List.append_assoc] at hall
  exact hall

theorem runStep_running {engine : Engine} (h : engine.Running) {answers : StepAnswers F}
    (hgoes : stops answers engine = false) : (runStep answers engine).2 = engine := by
  have hlost : losesSwapChain answers engine = false := by
    simp only [stops, drawFails, losesSwapChain, Bool.or_eq_false_iff] at hgoes ⊢
    have hdraw := hgoes.1.2
    cases hanswer : answers.draw <;> simp_all
  rw [runStep_engine h, hlost]
  exact if_neg Bool.false_ne_true

theorem lives_runLoop {engine : Engine} (h : engine.Running) (steps : List (StepAnswers F)) :
    Lives EnginePart.Needs engine.alive (runLoop steps engine).1
      (runLoop steps engine).2.1.alive := by
  induction steps with
  | nil => exact .nil _
  | cons answers later ih =>
    have hstep := lives_runStep h answers
    unfold runLoop
    cases hstops : stops answers engine with
    | true => exact hstep
    | false =>
      dsimp only
      rw [if_neg Bool.false_ne_true]
      rw [runStep_running h hstops] at hstep ⊢
      exact hstep.append ih

theorem wired_runLoop {engine : Engine} (h : engine.Running) (steps : List (StepAnswers F)) :
    (runLoop steps engine).2.1.Wired := by
  induction steps with
  | nil => exact h.toWired
  | cons answers later ih =>
    unfold runLoop
    cases hstops : stops answers engine with
    | true =>
      dsimp only
      rw [if_pos rfl, runStep_engine h]
      split_ifs
      · exact { h.toWired with swapChain := nofun }
      · exact h.toWired
    | false =>
      dsimp only
      rw [if_neg Bool.false_ne_true, runStep_running h hstops]
      exact ih

theorem Wired.free {engine : Engine} (h : engine.Wired) {part : EnginePart}
    {gone : List EnginePart}
    (hgone : ∀ other, part ∈ other.needs →
      other ∈ [.backendFrame, .imGuiFrame, .drawData] ∨ other ∈ gone) :
    ∀ other, engine.alive other → EnginePart.Needs other part → other ∈ gone := by
  intro other halive hneeds
  rcases hgone other hneeds with hframe | hother
  · have hclosed : ¬ engine.frameOpen = true := by simp [h.frameOpen]
    simp only [List.mem_cons, List.not_mem_nil, or_false] at hframe
    rcases hframe with rfl | rfl | rfl
    · exact absurd halive hclosed
    · exact absurd halive hclosed
    · exact halive.elim
  · exact hother

theorem Wired.destroy {engine : Engine} (h : engine.Wired) (part : EnginePart) (there : Bool)
    (gone : List EnginePart) (halive : engine.alive part ↔ there = true) (hpart : part ∉ gone)
    (hgone : ∀ other, part ∈ other.needs →
      other ∈ [.backendFrame, .imGuiFrame, .drawData] ∨ other ∈ gone) :
    Lives EnginePart.Needs (fun other => engine.alive other ∧ other ∉ gone)
      (if there then [.destroy part] else [])
      fun other => engine.alive other ∧ other ∉ part :: gone :=
  Lives.destroy_if halive hpart (h.free hgone)

theorem lives_teardown {engine : Engine} (h : engine.Wired) :
    Lives EnginePart.Needs
      (fun part => engine.alive part ∧ part ∉ [.ecs, .app, .agentChannel]) (teardown engine)
      fun part => engine.alive part ∧
        part ∉ [.renderer, .swapChain, .overlayBackend, .ecs, .app, .agentChannel] := by
  unfold teardown
  cases hrenderer : engine.rendererVulkan with
  | false =>
    have hsame : (fun part => engine.alive part ∧ part ∉ [.ecs, .app, .agentChannel]) =
        fun part => engine.alive part ∧
          part ∉ [.renderer, .swapChain, .overlayBackend, .ecs, .app, .agentChannel] := by
      have hswapChain := h.swapChain
      have hoverlay := h.debugUiOverlayEnabled
      funext part
      cases part <;> simp_all [alive]
    rw [← hsame]
    exact .nil _
  | true =>
    have hoverlay := h.destroy .overlayBackend engine.debugUiOverlayEnabled
      [.ecs, .app, .agentChannel] Iff.rfl (by decide) (by rintro (_ | _) <;> decide)
    have hswapChain := h.destroy .swapChain engine.swapChain
      [.overlayBackend, .ecs, .app, .agentChannel] Iff.rfl (by decide)
      (by rintro (_ | _) <;> decide)
    have hlast := h.destroy .renderer true [.swapChain, .overlayBackend, .ecs, .app, .agentChannel]
      (iff_of_true hrenderer rfl) (by decide) (by rintro (_ | _) <;> decide)
    exact .use ⟨hrenderer, by decide⟩ ((hoverlay.append hswapChain).append hlast)

theorem lives_shutdown {engine : Engine} (h : engine.Wired) :
    Lives EnginePart.Needs engine.alive (shutdown engine) (alive {}) := by
  have hchannel := h.destroy .agentChannel engine.agentChannel [] Iff.rfl (by decide)
    (by rintro (_ | _) <;> decide)
  have happ := h.destroy .app engine.app [.agentChannel] Iff.rfl (by decide)
    (by rintro (_ | _) <;> decide)
  have hecs := h.destroy .ecs engine.ecs [.app, .agentChannel] Iff.rfl (by decide)
    (by rintro (_ | _) <;> decide)
  have hdebugUi := h.destroy .imGuiContext engine.debugUi
    [.renderer, .swapChain, .overlayBackend, .ecs, .app, .agentChannel] Iff.rfl (by decide)
    (by rintro (_ | _) <;> decide)
  have hwindow := h.destroy .window engine.window
    [.imGuiContext, .renderer, .swapChain, .overlayBackend, .ecs, .app, .agentChannel] Iff.rfl
    (by decide) (by rintro (_ | _) <;> decide)
  have hserver := h.destroy .windowServer engine.windowServer
    [.window, .imGuiContext, .renderer, .swapChain, .overlayBackend, .ecs, .app, .agentChannel]
    Iff.rfl (by decide) (by rintro (_ | _) <;> decide)
  have hall := (((((hchannel.append happ).append hecs).append (lives_teardown h)).append
    hdebugUi).append hwindow).append hserver
  have hfirst : (fun part => engine.alive part ∧ part ∉ []) = engine.alive := by
    funext part
    simp
  have hlast : (fun part => engine.alive part ∧ part ∉ [EnginePart.windowServer, .window,
      .imGuiContext, .renderer, .swapChain, .overlayBackend, .ecs, .app, .agentChannel]) =
      alive {} := by
    funext part
    cases part <;> simp [alive, h.frameOpen]
  rw [hfirst, hlast] at hall
  exact hall

theorem wired_of_lives {calls : List EngineCall} {engine : Engine}
    (h : Lives EnginePart.Needs (alive {}) calls engine.alive) (hframe : engine.frameOpen = false) :
    engine.Wired := by
  have hclosed : Lives.Closed EnginePart.Needs engine.alive := by
    refine h.closed ?_
    rw [alive_none]
    exact fun _ _ => False.elim
  have hneeds : ∀ part other, other ∈ part.needs → engine.alive part → engine.alive other :=
    fun part other hneed halive => hclosed part other halive hneed
  exact {
    window := hneeds .window .windowServer (by decide)
    debugUi := hneeds .imGuiContext .windowServer (by decide)
    rendererVulkan := fun h => ⟨hneeds .renderer .windowServer (by decide) h,
      hneeds .renderer .window (by decide) h⟩
    swapChain := hneeds .swapChain .renderer (by decide)
    debugUiOverlayEnabled := fun h => ⟨hneeds .overlayBackend .imGuiContext (by decide) h,
      hneeds .overlayBackend .renderer (by decide) h⟩
    app := hneeds .app .ecs (by decide)
    frameOpen := hframe }

theorem bootPresentation_frameOpen (answers : BootAnswers) (engine : Engine) :
    (bootPresentation answers engine).2.1.frameOpen = engine.frameOpen := by
  unfold bootPresentation
  dsimp only
  split_ifs <;> rfl

theorem bootRendering_frameOpen (answers : BootAnswers) (engine : Engine) :
    (bootRendering answers engine).2.1.frameOpen = engine.frameOpen := by
  have hdebugUi : (bootDebugUi answers engine).2.frameOpen = engine.frameOpen := by
    unfold bootDebugUi
    split_ifs <;> rfl
  unfold bootRendering
  dsimp only
  split_ifs
  · rfl
  all_goals exact hdebugUi

theorem boot_frameOpen (answers : BootAnswers) : (boot answers {}).2.1.frameOpen = false := by
  have hpresentation := bootPresentation_frameOpen answers {}
  unfold boot
  dsimp only
  split_ifs
  · exact hpresentation
  · exact (bootRendering_frameOpen answers _).trans hpresentation
  · exact (bootRendering_frameOpen answers _).trans hpresentation
  all_goals first | exact hpresentation | exact bootRendering_frameOpen answers {}

/-! ### The whole run -/

theorem lives_main (boot : BootAnswers) (steps : List (StepAnswers F)) :
    Lives EnginePart.Needs (alive {}) (main boot steps).1 (main boot steps).2.1.alive := by
  have hboot := lives_boot boot
  unfold main
  dsimp only
  cases hresult : (Engine.boot boot {}).2.2 with
  | some error =>
    exact hboot.append (lives_shutdown (wired_of_lives hboot (boot_frameOpen boot)))
  | none =>
    have hrunning := running_boot hresult
    have happ : (Engine.boot boot {}).2.1.alive .app := hrunning.has_app
    have hecs : (Engine.boot boot {}).2.1.alive .ecs := hrunning.ecs
    have hstarted := hboot.append (.use happ (.use hecs (.nil _)))
    have hcalls := hstarted.append (lives_runLoop hrunning steps)
    dsimp only
    split_ifs with hstopped
    · exact hcalls.append (lives_shutdown (wired_runLoop hrunning steps))
    · exact hcalls

theorem runLoop_goes {engine : Engine} (h : engine.Running) (steps : List (StepAnswers F)) :
    (runLoop steps engine).2.2 = false ↔ ∀ answers ∈ steps, stops answers engine = false := by
  induction steps with
  | nil => simp [runLoop]
  | cons answers later ih =>
    unfold runLoop
    cases hstops : stops answers engine with
    | true => simp [hstops]
    | false =>
      dsimp only
      rw [if_neg Bool.false_ne_true, runStep_running h hstops, List.forall_mem_cons, ih]
      exact (and_iff_right hstops).symm

theorem main_returns_not (boot : BootAnswers) (steps : List (StepAnswers F)) :
    (main boot steps).2.2 = none ↔ (Engine.boot boot {}).2.2 = none ∧
      ∀ answers ∈ steps, stops answers (Engine.boot boot {}).2.1 = false := by
  unfold main
  dsimp only
  cases hresult : (Engine.boot boot {}).2.2 with
  | some error => simp
  | none =>
    rw [← runLoop_goes (running_boot hresult)]
    cases (runLoop steps (Engine.boot boot {}).2.1).2.2 <;> simp

/-- Every part is used, relied on and given back in time, and a run that comes back, which it does
with a boot that failed or the first step that stops it, leaves none behind. -/
theorem main_lives (boot : BootAnswers) (steps : List (StepAnswers F)) :
    Lives EnginePart.Needs (fun _ => False) (main boot steps).1 (main boot steps).2.1.alive ∧
      ((main boot steps).2.2 ≠ none → (main boot steps).2.1.alive = fun _ => False) ∧
      ((main boot steps).2.2 = none ↔ (Engine.boot boot {}).2.2 = none ∧
        ∀ answers ∈ steps, stops answers (Engine.boot boot {}).2.1 = false) := by
  refine ⟨alive_none ▸ lives_main boot steps, ?_, main_returns_not boot steps⟩
  intro hreturned
  rw [← alive_none]
  unfold main at *
  dsimp only at *
  cases hresult : (Engine.boot boot {}).2.2 with
  | some error => rfl
  | none =>
    rw [hresult] at hreturned
    dsimp only at *
    split_ifs at hreturned ⊢ with hstopped
    · rfl
    · exact absurd rfl hreturned

end Engine

end PlaygroundEngine
