import PlaygroundEngine.Library.Lifetimes
import PlaygroundEngine.PlatformEvents

/-!
# The engine's composition root

`Boot`, the run loop and `Shutdown` by the parts they make, use and give back. What the platform and
the frames answer is given; a part that the engine has a pointer to is a flag.
-/

namespace PlaygroundEngine

open Library
set_option autoImplicit false

inductive EnginePart where
  | windowServer
  | window
  | imGuiContext
  | renderer
  /-- What a frame is presented with; one that fails may have lost it. -/
  | swapChain
  /-- ImGui's renderer backend, attached to the context. -/
  | overlayBackend
  /-- The backend's own step of the frame that is opened next. -/
  | backendFrame
  | imGuiFrame
  /-- The draw data of the step's frame, as long as the step holds on to it. -/
  | drawData
  | agentChannel
  | ecs
  | app
  deriving DecidableEq

def EnginePart.needs : EnginePart → List EnginePart
  | windowServer | agentChannel | ecs => []
  | window => [windowServer]
  -- The clipboard is borrowed from the server.
  | imGuiContext => [windowServer]
  | renderer => [windowServer, window]
  | swapChain => [renderer]
  | overlayBackend => [imGuiContext, renderer]
  | backendFrame => [overlayBackend]
  | imGuiFrame => [imGuiContext, backendFrame]
  | drawData => [imGuiContext, overlayBackend]
  | app => [ecs]

abbrev EngineCall := Lifetime EnginePart

structure AppCapabilities where
  presentation : Bool := true
  rendering : Bool := true

inductive BootError where
  | platform
  | rendering
  deriving DecidableEq

def BootError.code : BootError → Nat
  | .platform => 1
  | .rendering => 2

structure BootAnswers where
  capabilities : AppCapabilities
  /-- Built with the development features. -/
  development : Bool
  windowServerCreated : Bool
  windowCreated : Bool
  rendererCreated : Bool
  overlayInitialized : Bool
  /-- The command line asks for the channel, and it could be opened. -/
  channelStarted : Bool

structure Engine where
  windowServer : Bool := false
  window : Bool := false
  debugUi : Bool := false
  rendererVulkan : Bool := false
  swapChain : Bool := false
  debugUiOverlayEnabled : Bool := false
  frameOpen : Bool := false
  agentChannel : Bool := false
  ecs : Bool := false
  app : Bool := false

inductive DrawAnswer where
  | drawn
  | failed (swapChainLost : Bool)
  deriving DecidableEq

/-- What one step finds: its record, how many panels the app and the systems draw while a frame is
open, how many meshes are new, and how its frame ends. -/
structure StepAnswers (F : Type) [Zero F] where
  platformEvents : PlatformEventRecord F
  panels : Nat
  newMeshes : Nat
  draw : DrawAnswer

variable {F : Type} [Zero F]

def PlatformEventRecord.hasEvent (record : PlatformEventRecord F) (type : PlatformEventType) :
    Bool :=
  record.events.any fun event => event.type = type

def useAll (parts : List EnginePart) : List EngineCall := parts.map .use

namespace Engine

def bootPresentation (answers : BootAnswers) (engine : Engine) :
    List EngineCall × Engine × Option BootError :=
  if answers.windowServerCreated = false then ([], engine, some .platform)
  else
    let engine := { engine with windowServer := true }
    if answers.windowCreated = false then ([.create .windowServer], engine, some .platform)
    else ([.create .windowServer, .create .window], { engine with window := true }, none)

def bootDebugUi (answers : BootAnswers) (engine : Engine) : List EngineCall × Engine :=
  if answers.development then
    ([.use .window, .create .imGuiContext], { engine with debugUi := true })
  else ([], engine)

/-- `RendererVulkan::Create`, asked for an overlay if there is a debug UI. -/
def createRenderer (answers : BootAnswers) (engine : Engine) : List EngineCall × Engine :=
  let overlay := engine.debugUi && answers.overlayInitialized
  ([.use .windowServer, .use .window, .create .renderer, .create .swapChain] ++
      (if overlay then [.create .overlayBackend] else []),
    { engine with
      rendererVulkan := true
      swapChain := true
      debugUiOverlayEnabled := overlay })

def bootRendering (answers : BootAnswers) (engine : Engine) :
    List EngineCall × Engine × Option BootError :=
  if engine.windowServer = false ∨ engine.window = false then ([], engine, some .rendering)
  else
    let (debugUi, engine) := bootDebugUi answers engine
    if answers.rendererCreated = false then (debugUi, engine, some .rendering)
    else
      let (renderer, engine) := createRenderer answers engine
      if engine.debugUi = true ∧ engine.debugUiOverlayEnabled = false then
        (debugUi ++ renderer ++ [.use .renderer, .destroy .imGuiContext],
          { engine with debugUi := false }, none)
      else (debugUi ++ renderer, engine, none)

/-- The tail of `Boot`, once nothing can fail any more. -/
def bootApp (answers : BootAnswers) (engine : Engine) : List EngineCall × Engine :=
  ((if answers.channelStarted then [.create .agentChannel] else []) ++
      [.create .ecs, .create .app, .use .app],
    { engine with agentChannel := answers.channelStarted, ecs := true, app := true })

def boot (answers : BootAnswers) (engine : Engine) :
    List EngineCall × Engine × Option BootError :=
  let presentation :=
    if answers.capabilities.presentation then bootPresentation answers engine
    else ([], engine, none)
  if presentation.2.2.isSome then presentation
  else
    let rendering :=
      if answers.capabilities.rendering then bootRendering answers presentation.2.1
      else ([], presentation.2.1, none)
    if rendering.2.2.isSome then (presentation.1 ++ rendering.1, rendering.2)
    else
      let rest := bootApp answers rendering.2.1
      (presentation.1 ++ rendering.1 ++ rest.1, rest.2, none)

def pumpParts (answers : StepAnswers F) (engine : Engine) : List EnginePart :=
  (if engine.windowServer then [.windowServer] else []) ++
  (if engine.agentChannel then [.agentChannel] else []) ++
  (if engine.rendererVulkan ∧ answers.platformEvents.hasEvent .windowResized then [.renderer]
    else []) ++
  (if engine.rendererVulkan then [.renderer] else [])

/-- The backend's step precedes ImGui's. -/
def beginDebugUiFrame (engine : Engine) : List EngineCall × Engine :=
  if engine.debugUi = true ∧ engine.window = true then
    ((if engine.rendererVulkan ∧ engine.debugUiOverlayEnabled then
        [.use .renderer, .use .overlayBackend, .create .backendFrame] else []) ++
      [.use .window, .use .imGuiContext, .create .imGuiFrame], { engine with frameOpen := true })
  else ([], engine)

/-- The app and the systems; a panel draws only while a frame is open. -/
def stepParts (answers : StepAnswers F) (engine : Engine) : List EnginePart :=
  [.app, .ecs] ++
  (if engine.frameOpen then List.replicate answers.panels .imGuiFrame else []) ++
  (if engine.debugUi = true ∧ engine.frameOpen = true then [.imGuiFrame] else [])

/-- The calls, and whether there is draw data. -/
def endDebugUiFrame (engine : Engine) : List EngineCall × Engine × Bool :=
  if engine.debugUi = true ∧ engine.frameOpen = true then
    ([.destroy .imGuiFrame, .destroy .backendFrame, .create .drawData],
      { engine with frameOpen := false }, true)
  else ([], engine, false)

/-- The cursor, the mesh catalog and the extraction, and the frame that is drawn. -/
def drawParts (answers : StepAnswers F) (drawData : Bool) (engine : Engine) : List EnginePart :=
  (if engine.window then (if engine.debugUi then [.imGuiContext] else []) ++ [.window] else []) ++
  (if engine.rendererVulkan = true ∧ engine.window = true then
    [.ecs] ++ List.replicate answers.newMeshes .renderer ++
      [.ecs, .window, .renderer, .swapChain] ++
      (if drawData = true ∧ engine.debugUiOverlayEnabled = true then
        [.overlayBackend, .drawData] else [])
  else [])

def drawFails (answers : StepAnswers F) (engine : Engine) : Bool :=
  engine.rendererVulkan && engine.window && answers.draw ≠ .drawn

def losesSwapChain (answers : StepAnswers F) (engine : Engine) : Bool :=
  engine.rendererVulkan && engine.window && answers.draw = .failed true

def stops (answers : StepAnswers F) (engine : Engine) : Bool :=
  answers.platformEvents.hasEvent .closeRequested || drawFails answers engine ||
    !engine.windowServer

def runStep (answers : StepAnswers F) (engine : Engine) : List EngineCall × Engine :=
  let opened := beginDebugUiFrame engine
  let closed := endDebugUiFrame opened.2
  let lost := losesSwapChain answers engine
  (useAll (pumpParts answers engine) ++ opened.1 ++ useAll (stepParts answers opened.2) ++
      closed.1 ++ useAll (drawParts answers closed.2.2 closed.2.1) ++
      (if lost then [.destroy .swapChain] else []) ++
      (if closed.2.2 then [.destroy .drawData] else []),
    if lost then { closed.2.1 with swapChain := false } else closed.2.1)

/-- The loop over what the steps to come will find, and whether it came to its end. -/
def runLoop : List (StepAnswers F) → Engine → List EngineCall × Engine × Bool
  | [], engine => ([], engine, false)
  | answers :: later, engine =>
    let step := runStep answers engine
    if stops answers engine then (step.1, step.2, true)
    else
      let rest := runLoop later step.2
      (step.1 ++ rest.1, rest.2)

def teardown (engine : Engine) : List EngineCall :=
  if engine.rendererVulkan then
    [.use .renderer] ++ (if engine.debugUiOverlayEnabled then [.destroy .overlayBackend] else []) ++
      (if engine.swapChain then [.destroy .swapChain] else []) ++ [.destroy .renderer]
  else []

/-- The windows go before the connection that they belong to. -/
def shutdown (engine : Engine) : List EngineCall :=
  (if engine.agentChannel then [.destroy .agentChannel] else []) ++
  (if engine.app then [.destroy .app] else []) ++
  (if engine.ecs then [.destroy .ecs] else []) ++
  teardown engine ++
  (if engine.debugUi then [.destroy .imGuiContext] else []) ++
  (if engine.window then [.destroy .window] else []) ++
  (if engine.windowServer then [.destroy .windowServer] else [])

/-- `main` up to where the given steps end; with an exit code if it returned. -/
def main (boot : BootAnswers) (steps : List (StepAnswers F)) :
    List EngineCall × Engine × Option Nat :=
  let booted := Engine.boot boot {}
  match booted.2.2 with
  | some error => (booted.1 ++ shutdown booted.2.1, {}, some error.code)
  | none =>
    let looped := runLoop steps booted.2.1
    let calls := booted.1 ++ [.use .app, .use .ecs] ++ looped.1
    if looped.2.2 then (calls ++ shutdown looped.2.1, {}, some 0)
    else (calls, looped.2.1, none)

end Engine

end PlaygroundEngine
