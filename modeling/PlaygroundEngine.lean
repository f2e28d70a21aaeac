import PlaygroundEngine.Library.SortedMap
import PlaygroundEngine.Library.Words
import PlaygroundEngine.Reflection.TypedRef
import PlaygroundEngine.Reflection.Enumeration
import PlaygroundEngine.PlatformEvents
import PlaygroundEngine.Ecs.Ecs
import PlaygroundEngine.Ecs.Consistency
import PlaygroundEngine.AgentChannel.ParseCommand
import PlaygroundEngine.AgentChannel.Grammar
import PlaygroundEngine.AgentChannel.Spelling
import PlaygroundEngine.AgentChannel.Connection
import PlaygroundEngine.AgentChannel.Segmentation
import PlaygroundEngine.EventDelivery
import PlaygroundEngine.MeshCatalog
import PlaygroundEngine.RenderExtraction
import PlaygroundEngine.Library.FirstFailure
import PlaygroundEngine.MeshSync
import PlaygroundEngine.Reflection.ArgumentBinding
import PlaygroundEngine.Reflection.FunctionInfo
import PlaygroundEngine.Reflection.CallChecks
import PlaygroundEngine.Reflection.FieldInfo
import PlaygroundEngine.Reflection.Facets
import PlaygroundEngine.Reflection.StaticFieldInfo
import PlaygroundEngine.Reflection.TypeGraph
import PlaygroundEngine.Reflection.Borrows
import PlaygroundEngine.Reflection.ErasedOperations
import PlaygroundEngine.Reflection.ReadOnlyDestinations
import PlaygroundEngine.Reflection.NullBorrows
import PlaygroundEngine.Library.Unfolding
import PlaygroundEngine.Reflection.Rendering
import PlaygroundEngine.Reflection.RenderingTermination
import PlaygroundEngine.Image
import PlaygroundEngine.Reflection.ConstructorSelection
import PlaygroundEngine.Reflection.SelectedBinding
import PlaygroundEngine.FrameContents
import PlaygroundEngine.Library.Interning
import PlaygroundEngine.Mesh
import PlaygroundEngine.MeshParsing
import PlaygroundEngine.Library.Signal
import PlaygroundEngine.Ecs.InputSystem
import PlaygroundEngine.Ecs.InputEdges
import PlaygroundEngine.Ecs.LostInput
import PlaygroundEngine.Library.Guarantee
import PlaygroundEngine.Library.FramesInFlight
import PlaygroundEngine.Renderer.Vulkan
import PlaygroundEngine.Renderer.SwapChain
import PlaygroundEngine.Renderer.DrawFrame
import PlaygroundEngine.Renderer.FrameLoop
import PlaygroundEngine.Math.Transform
import PlaygroundEngine.Math.Types
import PlaygroundEngine.Renderer.View
import PlaygroundEngine.Renderer.Mipmaps
import PlaygroundEngine.Library.BitStore
import PlaygroundEngine.Reflection.EnumerationStorage
import PlaygroundEngine.Library.MarkedRuns
import PlaygroundEngine.Library.Newest
import PlaygroundEngine.Log.FileSystem
import PlaygroundEngine.Log.QualifiedName
import PlaygroundEngine.Log.Configure
import PlaygroundEngine.Log.Retention
import PlaygroundEngine.Library.Blocks
import PlaygroundEngine.Log.History
import PlaygroundEngine.Reflection.SubobjectTree
import PlaygroundEngine.Reflection.BitFields
import PlaygroundEngine.Reflection.FieldLenses
import PlaygroundEngine.Reflection.RenderedTree
import PlaygroundEngine.Reflection.FieldAccess
import PlaygroundEngine.Reflection.LensLaws
import PlaygroundEngine.Library.Calendar
import PlaygroundEngine.Library.Numerals
import PlaygroundEngine.Log.FileNames
import PlaygroundEngine.Library.Nesting
import PlaygroundEngine.Library.TotalRuns
import PlaygroundEngine.DebugUi.ImGui
import PlaygroundEngine.DebugUi.DebugPanelDrawer
import PlaygroundEngine.DebugUi.PanelRows
import PlaygroundEngine.DebugUi.PanelDrawing
import PlaygroundEngine.DebugUi.DrawObject
import PlaygroundEngine.Library.Holdings
import PlaygroundEngine.Library.Countdown
import PlaygroundEngine.AgentChannel.Sockets
import PlaygroundEngine.AgentChannel.Lifecycle
import PlaygroundEngine.AgentChannel.Serving
import PlaygroundEngine.AgentChannel.Stopping
import PlaygroundEngine.Library.Lifetimes
import PlaygroundEngine.Renderer.Objects
import PlaygroundEngine.Renderer.ObjectLifetimes
import PlaygroundEngine.Engine
import PlaygroundEngine.EngineLives
import PlaygroundEngine.Library.Dependencies
import PlaygroundEngine.Renderer.Commands
import PlaygroundEngine.Renderer.CommandDraws
import PlaygroundEngine.Renderer.CommandSafety
import PlaygroundEngine.Renderer.EntityDraws
import PlaygroundEngine.Library.LazyQueue
import PlaygroundEngine.Game.EntitySpawner
import PlaygroundEngine.Game.SpawnerLine
import PlaygroundEngine.Game.SpawnerRefinement
import PlaygroundEngine.Library.LastWord
import PlaygroundEngine.DebugUi.InputTranslation
import PlaygroundEngine.GlfwInputTranslation
import PlaygroundEngine.DebugUi.InputAgreement
import PlaygroundEngine.Math.EulerAngles
import PlaygroundEngine.Library.SlotLoops
import PlaygroundEngine.Game.Controls
import PlaygroundEngine.Game.Poses
import PlaygroundEngine.Game.CameraFlight
import PlaygroundEngine.Windows.Glfw
import PlaygroundEngine.Windows.WindowServer
import PlaygroundEngine.Windows.CursorLives
import PlaygroundEngine.Windows.WindowRuns
